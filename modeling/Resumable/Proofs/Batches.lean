import Resumable.Proofs.Live.FanOut
import Resumable.Proofs.Live.Settled
import Resumable.Proofs.Verify.Deviation
import Resumable.Proofs.Verify.Transcript

/-! # What a batch is given

A performer may give a suspension an outcome that `Suspension.Fits` it: a batch that
succeeds is given an array with a value for each of its commands. Handlers never give
anything else, and the values are those of the commands in order, whatever the order
in which they come (`FanOut.yields_of_returned`).

A replay gives what its expectations say. They may say anything of a batch, since no
clause of a script is refused for the outcome that it gives. So a replay gives
batches what fits them exactly if the script's expectations do
(`Verification.fits_iff`), and a procedure can be verified against results that no
handlers give (`Verification.verdict_of_any`).
-/

namespace Resumable

open Json (Value)

/-- The outcome is one that a suspension may be given: a batch succeeds with an array of as many
values as it has commands. -/
def Suspension.Fits : Suspension → Outcome → Prop
  | .all commands, .ok value => ∃ values, value = .array values ∧ values.length = commands.length
  | _, _ => True

/-- The performer gives suspensions only outcomes that fit them. -/
def Performer.Fits {σ δ ε : Type} (performer : Performer σ δ ε) : Prop :=
  ∀ own site suspension step now performed outcome,
    performer.perform own site suspension step now = some performed →
    performed.ending = .settled outcome → suspension.Fits outcome

section Live

/-- The value is that of a batch which succeeds: an array with the value of every command at its
position. -/
def Dispatch.Yields (commands : List Command) (dispatches : List Dispatch) (value : Value) :
    Prop :=
  ∃ values, value = .array values ∧ values.length = commands.length ∧
    ∀ (i : Nat) (command : Command), commands[i]? = some command →
      ∃ dispatch element, dispatches[i]? = some dispatch ∧ dispatch.command = command ∧
        dispatch.ending = .settled (.ok element) ∧ values[i]? = some element

variable {handlers : Handlers} {runtime : Runtime} {invoke : Site → Invoke} {site : Site}
  {place : Place} {step now : Nat} {commands : List Command} {dispatches : List Dispatch}

theorem Dispatch.Gathers.yields {order : List Dispatch} {value : Value}
    (issued : all handlers runtime invoke site place commands step now = some dispatches)
    (gathers : Gathers dispatches order (.ok value)) : Yields commands dispatches value := by
  obtain ⟨values, rfl, size, each⟩ := gathers.values value rfl
  refine ⟨values, rfl, size.trans (all_eq_some issued).1, ?_⟩
  intro i command commanded
  obtain ⟨dispatch, found, made⟩ := exists_getElem?_of_all issued commanded
  obtain ⟨element, ending, placed⟩ := each i dispatch found
  exact ⟨dispatch, element, found, (one_eq_some made).1, ending, placed⟩

/-- **A batch in flight that returns a value returns an array in order**, whatever the order in
which its tasks end and in which it receives their reports. -/
theorem FanOut.yields_of_returned
    (issued : Dispatch.all handlers runtime invoke site place commands step now =
      some dispatches) {ended : List Dispatch} {flight : FanOut} {value : Value}
    (history : History dispatches ended flight) (returned : flight.returned = some (.ok value)) :
    Dispatch.Yields commands dispatches value := by
  have tasks : (ended ++ flight.running).Perm dispatches := history.sound.tasks
  have same := (returns_gather tasks).unique ended flight _ (List.prefix_append _ _) history
    returned
  have gathers := Dispatch.gathers_of_order (Dispatch.map_index_of_all issued) tasks
  rw [← same] at gathers
  exact gathers.yields issued

theorem fits_handling (handlers : Handlers) (runtime : Runtime) (invoke : Site → Invoke)
    (place : Place) : (handling handlers runtime invoke place).Fits := by
  intro own site suspension step now performed outcome performs settles
  cases suspension with
  | one command => exact trivial
  | all commands =>
      cases outcome with
      | error failure => exact trivial
      | ok value =>
          simp only [handling, Dispatch.suspension, Option.bind_eq_bind, Option.bind_eq_some_iff,
            Option.pure_def, Option.some.injEq] at performs
          obtain ⟨dispatches, issued, rfl⟩ := performs
          have gathers := Dispatch.gathers_batchOutcome (Dispatch.map_index_of_all issued)
          rw [Ending.settled.inj settles] at gathers
          obtain ⟨values, same, length, _⟩ := gathers.yields issued
          exact ⟨values, same, length⟩

end Live

section Scripted

/-- A suspension that is described has as many commands as the expected one. -/
theorem Expectation.Describes.fits_iff {expectation : Expectation} {suspension : Suspension}
    (same : expectation.Describes suspension) (outcome : Outcome) :
    suspension.Fits outcome ↔ expectation.suspension.Fits outcome := by
  obtain ⟨expected, given⟩ := expectation
  have equal := (Value.difference?_eq_none_iff _ _).mp same
  cases expected with
  | one command =>
      cases suspension with
      | one command' => exact Iff.rfl
      | all commands => simp [Suspension.toJson, Command.toJson, Value.eqWith] at equal
  | all commands =>
      cases suspension with
      | one command' => simp [Suspension.toJson, Command.toJson, Value.eqWith] at equal
      | all commands' =>
          have length : commands.length = commands'.length := by
            simpa using Value.length_of_eqElementsWith equal
          cases outcome with
          | error failure => exact Iff.rfl
          | ok value => simp only [Suspension.Fits, length]

/-- The script of a procedure that returns a value after a batch. The batch is given a value of its
own, or else the one that is returned. -/
def Script.ofBatch (args : Value) (commands : List Command) (given : Option Value)
    (value : Value) : Script :=
  .ofClauses args
    (.suspends (.all commands) :: (given.map fun given => Clause.gives (.ok given)).toList ++
      [.ends (.returns value)])

/-- A procedure that suspends on suspensions in order, whatever it is given. -/
def Procedure.recital (name : String) (suspensions : List Suspension) : Procedure where
  name := name
  State := List Suspension
  initial := fun _ => suspensions
  move := fun left _ =>
    match left with
    | [] => (.done .null, [])
    | suspension :: rest => (.suspend suspension, rest)

namespace Replay

variable {site : Site} {step now : Nat} {replay last : Replay}
  {stages : List (Stage (List Emission) Violation)} {finale : Finale Violation}

/-- What a replay gives a computation comes from its expectations. -/
theorem expected_of_course (quiet : site.config.hooks.Quiet) {τ : Type}
    {move : τ → Input → Step × τ} {state : τ} {input : Input}
    (course : performer.Course site move step replay state input now stages finale last) :
    ∀ stage ∈ stages, ∀ outcome, stage.ending = .settled outcome →
      ∃ expectation ∈ replay.remaining, expectation.Describes stage.suspension ∧
        outcome = expectation.outcome := by
  induction course with
  | done answer => exact nofun
  | failed answer => exact nofun
  | stopped answer performs stops =>
      intro stage member outcome settles
      obtain rfl := List.mem_singleton.mp member
      exact absurd settles (stops outcome)
  | @resumed step now replay last state after input suspension performed given stages finale
      answer performs gives rest ih =>
      obtain rfl := Option.some.inj performs
      obtain ⟨expectation, others, left, same, rfl⟩ := settled_of_perform gives
      obtain ⟨remaining, taken⟩ := replay
      obtain rfl : remaining = expectation :: others := left
      rw [perform_of_same quiet same] at ih
      intro stage member outcome settles
      rcases List.mem_cons.mp member with rfl | member
      · cases gives.symm.trans settles
        exact ⟨expectation, List.mem_cons_self, same, rfl⟩
      · obtain ⟨later, among, described⟩ := ih stage member outcome settles
        exact ⟨later, List.mem_cons_of_mem _ among, described⟩

/-- A computation that suspends on what is expected is given all that the expectations say. -/
theorem given_of_recital (quiet : site.config.hooks.Quiet) {name : String}
    {expectations : List Expectation} {taken : Nat} {input : Input}
    (course : performer.Course site
      (Procedure.recital name (expectations.map Expectation.suspension)).move step
      ⟨expectations, taken⟩ (expectations.map Expectation.suspension) input now stages finale
      last) :
    ∀ expectation ∈ expectations, ∃ stage ∈ stages,
      stage.suspension = expectation.suspension ∧
        stage.ending = .settled expectation.outcome := by
  induction expectations generalizing step now taken input stages with
  | nil => exact nofun
  | cons first rest ih =>
      have same : perform ⟨first :: rest, taken⟩ site first.suspension step now = _ :=
        perform_of_same quiet (Value.difference?_self first.suspension.toJson)
      cases course with
      | done answer => cases answer
      | failed answer => cases answer
      | stopped answer performs stops =>
          cases answer
          obtain rfl := Option.some.inj performs
          rw [same] at stops
          exact absurd rfl (stops first.outcome)
      | resumed answer performs gives later =>
          cases answer
          obtain rfl := Option.some.inj performs
          rw [same] at gives later ⊢
          intro expectation member
          rcases List.mem_cons.mp member with rfl | member
          · exact ⟨_, List.mem_cons_self, rfl, rfl⟩
          · obtain ⟨stage, among, given⟩ := ih later expectation member
            exact ⟨stage, List.mem_cons_of_mem _ among, given⟩

end Replay

namespace Verification

variable {config : Config} {script : Script}

/-- Whatever is verified against the script, its suspensions are given outcomes that fit them. -/
def Fits (config : Config) (script : Script) : Prop :=
  ∀ fresh procedure invocation,
    (run config fresh procedure script).invocation = some invocation →
      ∀ stage ∈ invocation.stages, ∀ outcome, stage.ending = .settled outcome →
        stage.suspension.Fits outcome

/-- **A check gives batches what fits them exactly if the script says so.** -/
theorem fits_iff (quiet : config.hooks.Quiet) {terminal : Terminal}
    (checked : script.checked = .ok terminal) :
    Fits config script ↔
      ∀ expectation ∈ script.expectations, expectation.suspension.Fits expectation.outcome := by
  constructor
  · intro fits expectation member
    let procedure : Procedure :=
      .recital "recital" (script.expectations.map Expectation.suspension)
    obtain ⟨stages, finale, last, course, ran⟩ := exists_course quiet ⟨""⟩ procedure checked
    obtain ⟨stage, among, suspends, given⟩ := Replay.given_of_recital
      (show (site config ⟨""⟩ procedure script).config.hooks.Quiet from quiet) course expectation
      member
    have fit := fits ⟨""⟩ procedure _ (congrArg Verification.invocation ran) stage among _ given
    rwa [suspends] at fit
  · intro fits fresh procedure invocation found stage among outcome given
    obtain ⟨stages, finale, last, course, ran⟩ := exists_course quiet fresh procedure checked
    rw [ran] at found
    cases found
    obtain ⟨expectation, member, same, rfl⟩ := Replay.expected_of_course
      (show (site config fresh procedure script).config.hooks.Quiet from quiet) course stage among
      outcome given
    exact (same.fits_iff _).mpr (fits expectation member)

/-- **Any result of a batch is verified**, whether the script gives it to the batch or leaves it to
the terminal. -/
theorem verdict_of_any (quiet : config.hooks.Quiet) (fresh : RunId) (name : String) (args : Value)
    (commands : List Command) {given : Option Value} {value : Value}
    (same : ∀ other ∈ given, other = value) :
    (Script.ofBatch args commands given value).checked = .ok (.returns value) ∧
      (run config fresh (.errand name (.all commands))
        (.ofBatch args commands given value)).verdict = .ok none := by
  have script : Script.ofBatch args commands given value =
      ⟨args, [⟨.all commands, .ok value⟩], none, some (.returns value), none⟩ := by
    cases given with
    | none => rfl
    | some other =>
        obtain rfl := same other rfl
        rfl
  rw [script]
  refine ⟨rfl, ?_⟩
  let whole : Script := ⟨args, [⟨.all commands, .ok value⟩], none, some (.returns value), none⟩
  let procedure : Procedure := .errand name (.all commands)
  have checked : whole.checked = .ok (.returns value) := rfl
  obtain ⟨stages, finale, last, course, ran⟩ := exists_course quiet fresh procedure checked
  have conforms : Conforms procedure.move (procedure.initial args) .start whole.expectations
      (.returns value) :=
    conforms_cons_iff.mpr ⟨⟨.all commands, rfl, Value.difference?_self _⟩,
      conforms_nil_iff.mpr (Value.difference?_self value)⟩
  have quiet' : (site config fresh procedure whole).config.hooks.Quiet := quiet
  rw [ran]
  exact (judge_course_iff quiet' course (.returns value)).mpr conforms

end Verification

end Scripted

/-- **What handlers and scripts give batches.** Handlers give a batch that succeeds an array with
the value of every command at its position, in whatever order the commands settle. A script without
fault gives its batches what fits them exactly if every outcome that it declares fits, and it may
declare anything: any value is verified as the result of any batch. -/
theorem batches_of_both_layers {config : Config} {script : Script} {terminal : Terminal}
    (quiet : config.hooks.Quiet) (checked : script.checked = .ok terminal) :
    (∀ {handlers : Handlers} {runtime : Runtime} {invoke : Site → Invoke} {site : Site}
        {place : Place} {step now : Nat} {commands : List Command} {dispatches : List Dispatch},
      Dispatch.all handlers runtime invoke site place commands step now = some dispatches →
      ∀ {ended : List Dispatch} {flight : FanOut} {value : Value},
        FanOut.History dispatches ended flight → flight.returned = some (.ok value) →
        Dispatch.Yields commands dispatches value) ∧
    (∀ handlers runtime invoke place, (handling handlers runtime invoke place).Fits) ∧
    (Verification.Fits config script ↔
      ∀ expectation ∈ script.expectations, expectation.suspension.Fits expectation.outcome) ∧
    (∀ (fresh : RunId) (name : String) (args : Value) (commands : List Command)
        {given : Option Value} {value : Value}, (∀ other ∈ given, other = value) →
      (Script.ofBatch args commands given value).checked = .ok (.returns value) ∧
        (Verification.run config fresh (.errand name (.all commands))
          (.ofBatch args commands given value)).verdict = .ok none) := by
  refine ⟨?_, fits_handling, Verification.fits_iff quiet checked, ?_⟩
  · intro _ _ _ _ _ _ _ _ _ issued _ _ _ history returned
    exact FanOut.yields_of_returned issued history returned
  · intro fresh name args commands _ _ same
    exact Verification.verdict_of_any quiet fresh name args commands same

/-- A batch of two is given two values by its handlers and by a script that says so, and a number
by a script that says so. -/
theorem batches_of_pair :
    let config : Config := ⟨none, none, ⟨[.recorder]⟩⟩
    let commands : List Command := [.ofType "get", .ofType "put"]
    let handlers := (Handlers.empty.insert "get" fun _ _ => .settle (.ok .null)).insert "put"
      fun _ _ => .settle (.ok (.bool true))
    let values : Value := .array [.null, .bool true]
    let number : Value := .word 7
    (∃ dispatches flight,
      Dispatch.all handlers default (fun _ _ _ _ _ => none) (.root config ⟨"run"⟩) [] commands
        0 0 = some dispatches ∧
      FanOut.History dispatches dispatches.reverse flight ∧ flight.returned = some (.ok values) ∧
      Dispatch.Yields commands dispatches values) ∧
    Verification.Fits config (.ofBatch .null commands none values) ∧
    (Verification.run config ⟨"run"⟩ (.errand "pair" (.all commands))
      (.ofBatch .null commands (some number) number)).verdict = .ok none ∧
    ¬ Verification.Fits config (.ofBatch .null commands (some number) number) := by
  intro config commands handlers values number
  have quiet : config.hooks.Quiet := Hooks.quiet_recorder
  let proper : Script := .ofBatch .null commands none values
  let odd : Script := .ofBatch .null commands (some number) number
  have properly : proper.checked = .ok (.returns values) := rfl
  have oddly : odd.checked = .ok (.returns number) := rfl
  obtain ⟨yields, _, fits, _⟩ := batches_of_both_layers quiet properly
  obtain ⟨_, _, fits', verified⟩ := batches_of_both_layers quiet oddly
  refine ⟨?_, ?_, ?_, ?_⟩
  · have gathered : ∃ dispatches,
        Dispatch.all handlers default (fun _ _ _ _ _ => none) (.root config ⟨"run"⟩) []
          commands 0 0 = some dispatches ∧
        gather dispatches.length (dispatches.reverse.filterMap Dispatch.sent?) = .ok values :=
      ⟨_, rfl, rfl⟩
    obtain ⟨dispatches, issued, outcome⟩ := gathered
    obtain ⟨flight, history, returned⟩ :=
      (FanOut.returns_gather (List.reverse_perm dispatches)).reached
    rw [outcome] at returned
    exact ⟨dispatches, flight, issued, history, returned, yields issued history returned⟩
  · refine fits.mpr ?_
    intro expectation member
    obtain rfl := List.mem_singleton.mp member
    exact ⟨[.null, .bool true], rfl, rfl⟩
  · exact (verified ⟨"run"⟩ "pair" .null commands (by simp)).2
  · intro fit
    obtain ⟨elements, same, _⟩ := fits'.mp fit ⟨.all commands, .ok number⟩
      (List.mem_singleton.mpr rfl)
    have clash : Value.number (.ofWord 7) = .array elements := same
    cases clash

/-- A script says that a batch of two is given a number. The script has no fault, the procedure that
returns what its batch is given is verified, and the number is what the replay gives the batch. -/
theorem batch_given_number :
    let config : Config := ⟨none, none, ⟨[.recorder]⟩⟩
    let batch : Suspension := .all [.ofType "a", .ofType "b"]
    let number : Value := .word 7
    let script : Script :=
      .ofClauses .null [.suspends batch, .gives (.ok number), .ends (.returns number)]
    script.checked = .ok (.returns number) ∧
      (Verification.run config ⟨"run"⟩ (.errand "pair" batch) script).verdict = .ok none ∧
      ((Replay.ofList script.expectations).perform (.root config ⟨"run"⟩) batch 0 0).ending =
        .settled (.ok number) ∧
      ¬ batch.Fits (.ok number) := by
  intro config batch number script
  refine ⟨rfl, rfl, rfl, ?_⟩
  rintro ⟨elements, same, _⟩
  have clash : Value.number (.ofWord 7) = .array elements := same
  cases clash

end Resumable
