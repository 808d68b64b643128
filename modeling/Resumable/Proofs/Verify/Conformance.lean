import Resumable.Proofs.Course
import Resumable.Verify.Verdict

/-! # A verification finds what the script says of the computation

`Procedure.Follows` says what a script asks of a procedure in terms of the
procedure's own computation: given a start and then the scripted outcomes one
after another, it suspends on each expected suspension and then settles as the
terminal declares. It mentions no session, no replay and no records. With quiet
hooks a verification finds nothing exactly when the procedure follows its
script (`Verification.verdict_eq_ok_none_iff`).
-/

namespace Resumable

open Json (Value)

/-- The terminal declares how a step settles. -/
def Terminal.Declares : Terminal → Step → Prop
  | returns expected, .done actual => Value.difference? expected actual = none
  | throws expected, .failed actual => expected = actual
  | _, _ => False

instance : (terminal : Terminal) → (step : Step) → Decidable (terminal.Declares step)
  | .returns expected, .done actual =>
      inferInstanceAs (Decidable (Value.difference? expected actual = none))
  | .throws expected, .failed actual => inferInstanceAs (Decidable (expected = actual))
  | .returns _, .failed _ => isFalse id
  | .returns _, .suspend _ => isFalse id
  | .throws _, .done _ => isFalse id
  | .throws _, .suspend _ => isFalse id

/-- The input that passes on the outcome of an expectation. -/
def Expectation.input (expectation : Expectation) : Input :=
  .ofOutcome expectation.outcome

/-- Given `input` and then the outcomes of `expectations`, a computation in state
`state` suspends on the expected suspensions and then settles as declared. -/
structure Conforms {τ : Type} (move : τ → Input → Step × τ) (state : τ) (input : Input)
    (expectations : List Expectation) (terminal : Terminal) : Prop where
  suspends : ∀ (k : Nat) (expectation : Expectation), expectations[k]? = some expectation →
    ∃ suspension,
      (answers move state (input :: expectations.map Expectation.input))[k]? =
        some (.suspend suspension) ∧
      Value.difference? expectation.suspension.toJson suspension.toJson = none
  settles : ∃ step,
    (answers move state (input :: expectations.map Expectation.input))[expectations.length]? =
      some step ∧ terminal.Declares step

/-- Computations of the procedure with the script's arguments go as the script says. -/
def Procedure.Follows (procedure : Procedure) (script : Script) (terminal : Terminal) : Prop :=
  Conforms procedure.move (procedure.initial script.args) .start script.expectations terminal

section Conforms

variable {τ : Type} {move : τ → Input → Step × τ} {state : τ} {input : Input}
  {terminal : Terminal}

theorem conforms_nil_iff :
    Conforms move state input [] terminal ↔ terminal.Declares (move state input).1 := by
  constructor
  · intro conforms
    obtain ⟨step, found, declared⟩ := conforms.settles
    cases found
    exact declared
  · intro declared
    exact ⟨nofun, _, rfl, declared⟩

theorem conforms_cons_iff {expectation : Expectation} {rest : List Expectation} :
    Conforms move state input (expectation :: rest) terminal ↔
      (∃ suspension, (move state input).1 = .suspend suspension ∧
        Value.difference? expectation.suspension.toJson suspension.toJson = none) ∧
      Conforms move (move state input).2 expectation.input rest terminal := by
  constructor
  · intro conforms
    obtain ⟨suspension, first, same⟩ := conforms.suspends 0 expectation rfl
    refine ⟨⟨suspension, Option.some.inj first, same⟩, ⟨?_, ?_⟩⟩
    · intro k later found
      exact conforms.suspends (k + 1) later found
    · exact conforms.settles
  · rintro ⟨⟨suspension, first, same⟩, conforms⟩
    refine ⟨?_, conforms.settles⟩
    intro k later found
    cases k with
    | zero =>
        cases found
        exact ⟨suspension, congrArg some first, same⟩
    | succ k => exact conforms.suspends k later found

end Conforms

theorem Terminal.violation?_eq_none_iff (terminal : Terminal) (outcome : Outcome) :
    terminal.violation? outcome = none ↔ terminal.Declares (.ofOutcome outcome) := by
  cases terminal <;> cases outcome <;>
    simp [Terminal.violation?, Terminal.Declares, Step.ofOutcome]

/-- What the record of a settled command shows in a replay of its step. -/
def Suspension.shown (suspension : Suspension) (given : Outcome) (index : Nat) : Outcome :=
  match suspension with
  | .one _ => given
  | .all _ => Replay.share given index

theorem Replay.emissions_eq (site : Site) (suspension : Suspension) (step now : Nat)
    (given : Outcome) :
    emissions site suspension step now given =
      suspension.commands.zipIdx.flatMap fun (command, index) =>
        pair site command step index now (suspension.shown given index) := by
  cases suspension with
  | one command => exact (List.append_nil _).symm
  | all commands => rfl

namespace Replay

theorem panic?_of_mem_emissions {site : Site} (quiet : site.config.hooks.Quiet)
    {suspension : Suspension} {step now : Nat} {given : Outcome} {emission : Emission}
    (member : emission ∈ emissions site suspension step now given) :
    emission.panic? = none := by
  obtain ⟨command, index, outcome, paired⟩ := exists_pair_of_mem_emissions member
  simp only [pair, List.mem_cons, List.not_mem_nil, or_false] at paired
  rcases paired with rfl | rfl
  · exact Site.emit_panic? quiet _ _
  · exact Site.emit_panic? quiet _ _

variable {site : Site} {suspension : Suspension} {step now taken : Nat}
  {expectation : Expectation} {rest : List Expectation}

/-- Quiet hooks leave no suspension without an answer. -/
theorem Performs.not_unwound {replay : Replay}
    {performed : Performance Replay (List Emission) Violation}
    (performs : Performs site suspension step now replay performed)
    (quiet : site.config.hooks.Quiet) (message : String) : performed.ending ≠ .unwound message := by
  intro unwound
  cases performs with
  | overruns => cases unwound
  | differs found => cases unwound
  | gives same calm => cases unwound
  | @unwinds expectation _ _ told others emission _ same whole calm panics =>
      have member : emission ∈ emissions site suspension step now expectation.outcome := by
        rw [whole]
        exact List.mem_append_right _ List.mem_cons_self
      cases (panic?_of_mem_emissions quiet member).symm.trans panics

/-- A suspension that the next expectation describes is given its outcome. -/
theorem perform_of_same (quiet : site.config.hooks.Quiet)
    (same : Value.difference? expectation.suspension.toJson suspension.toJson = none) :
    perform ⟨expectation :: rest, taken⟩ site suspension step now =
      ⟨⟨rest, taken + 1⟩, emissions site suspension step now expectation.outcome, now,
        .settled expectation.outcome⟩ := by
  have performs := performs ⟨expectation :: rest, taken⟩ site suspension step now
  have answered := performs.not_unwound quiet
  generalize perform ⟨expectation :: rest, taken⟩ site suspension step now = performed
    at performs answered ⊢
  cases performs with
  | differs found => cases same.symm.trans found
  | gives same calm => rfl
  | unwinds same whole calm panics => exact absurd rfl (answered _)

/-- A replay answers with an outcome only what its next expectation describes. -/
theorem settled_of_perform {replay : Replay} {outcome : Outcome}
    (settles : (replay.perform site suspension step now).ending = .settled outcome) :
    ∃ expectation rest, replay.remaining = expectation :: rest ∧
      Value.difference? expectation.suspension.toJson suspension.toJson = none ∧
      outcome = expectation.outcome := by
  have performs := replay.performs site suspension step now
  generalize replay.perform site suspension step now = performed at performs settles
  cases performs with
  | overruns => cases settles
  | differs found => cases settles
  | gives same calm =>
      cases settles
      exact ⟨_, _, rfl, same, rfl⟩
  | unwinds same whole calm panics => cases settles

/-- Whatever a replay answers, it has taken its next expectation. -/
theorem state_perform {replay : Replay} (left : replay.remaining = expectation :: rest) :
    (replay.perform site suspension step now).state = ⟨rest, replay.taken + 1⟩ := by
  have performs := replay.performs site suspension step now
  generalize replay.perform site suspension step now = performed at performs ⊢
  cases performs with
  | overruns => cases left
  | differs found => cases left; rfl
  | gives same calm => cases left; rfl
  | unwinds same whole calm panics => cases left; rfl

end Replay

namespace Verification

variable {τ : Type} {move : τ → Input → Step × τ}

/-- A computation that settles at once conforms exactly if nothing is left to
expect and the terminal declares its outcome. -/
theorem judge_settled_iff {state : τ} {input : Input} {outcome : Outcome}
    (answer : (move state input).1 = .ofOutcome outcome) (terminal : Terminal) (replay : Replay) :
    judge terminal replay (.settled outcome) = .ok none ↔
      Conforms move state input replay.remaining terminal := by
  cases left : replay.remaining with
  | nil =>
      rw [conforms_nil_iff, answer]
      simp only [judge, left, Except.ok.injEq]
      exact terminal.violation?_eq_none_iff outcome
  | cons expectation rest =>
      have settled : ∀ suspension, (move state input).1 ≠ .suspend suspension := by
        intro suspension
        rw [answer]
        cases outcome <;> exact nofun
      rw [conforms_cons_iff]
      simp only [judge, left, Except.ok.injEq, reduceCtorEq, false_iff]
      rintro ⟨⟨suspension, suspends, _⟩, _⟩
      exact settled suspension suspends

/-- **The verdict on a course.** What a replay finds wrong with the course of a
computation is nothing exactly if the computation conforms to the expectations
that the replay had left when it began. -/
theorem judge_course_iff {site : Site} (quiet : site.config.hooks.Quiet) {step now : Nat}
    {replay last : Replay} {state : τ} {input : Input}
    {stages : List (Stage (List Emission) Violation)} {finale : Finale Violation}
    (course : Replay.performer.Course site move step replay state input now stages finale last)
    (terminal : Terminal) :
    judge terminal last finale.ending = .ok none ↔
      Conforms move state input replay.remaining terminal := by
  induction course with
  | done answer => exact judge_settled_iff (by rw [answer]; rfl) terminal _
  | failed answer => exact judge_settled_iff (by rw [answer]; rfl) terminal _
  | @stopped step now replay state after input suspension performed answer performs stops =>
      obtain rfl := Option.some.inj performs
      obtain ⟨remaining, taken⟩ := replay
      cases remaining with
      | nil =>
          rw [conforms_nil_iff, answer]
          simp [Replay.perform, judge, Terminal.Declares]
      | cons expectation rest =>
          -- Only a difference halts the replay here: the hooks are quiet.
          have differs : Value.difference? expectation.suspension.toJson suspension.toJson ≠
              none := by
            intro same
            rw [Replay.perform_of_same quiet same] at stops
            exact stops _ rfl
          obtain ⟨difference, found⟩ := Option.ne_none_iff_exists'.mp differs
          rw [conforms_cons_iff, answer]
          simp [Replay.perform, found, judge]
  | @resumed step now replay last state after input suspension performed outcome stages finale
      answer performs settles rest ih =>
      obtain rfl := Option.some.inj performs
      obtain ⟨expectation, others, left, same, rfl⟩ := Replay.settled_of_perform settles
      obtain ⟨remaining, taken⟩ := replay
      obtain rfl : remaining = expectation :: others := left
      rw [Replay.perform_of_same quiet same] at ih
      rw [ih, conforms_cons_iff, answer]
      constructor
      · intro conforms
        exact ⟨⟨suspension, rfl, same⟩, conforms⟩
      · intro conforms
        exact conforms.2

variable {config : Config} {script : Script} {terminal : Terminal}

/-- A script with a fault is not tried. -/
theorem run_of_fault {violation : Violation} (checked : script.checked = .error violation)
    (config : Config) (fresh : RunId) (procedure : Procedure) :
    run config fresh procedure script = ⟨none, .ok (some violation)⟩ := by
  unfold run
  rw [checked]

/-- A verification judges a run that ends. -/
theorem exists_invoke_of_checked (checked : script.checked = .ok terminal) (config : Config)
    (fresh : RunId) (procedure : Procedure) :
    ∃ invocation last,
      Replay.performer.invoke (site config fresh procedure script) procedure script.args 0
        (script.expectations.length + 1) (.ofList script.expectations) = some (invocation, last) ∧
      run config fresh procedure script =
        ⟨some invocation, judge terminal last invocation.ending⟩ := by
  let place := site config fresh procedure script
  let replay := Replay.ofList script.expectations
  obtain ⟨⟨invocation, last⟩, ran⟩ := Option.isSome_iff_exists.mp
    (Replay.invoke_isSome place procedure script.args 0 replay)
  have whole : replay.run place procedure script.args = (invocation, last) :=
    Option.get_of_eq_some _ ran
  refine ⟨invocation, last, ran, ?_⟩
  unfold run
  simp only [checked]
  rw [show (Replay.ofList script.expectations).run (site config fresh procedure script) procedure
    script.args = _ from whole]

/-- A verification with quiet hooks judges the course of its computation. -/
theorem exists_course (quiet : config.hooks.Quiet) (fresh : RunId) (procedure : Procedure)
    (checked : script.checked = .ok terminal) :
    ∃ stages finale last,
      Replay.performer.Course (site config fresh procedure script) procedure.move 0
        (Replay.ofList script.expectations) (procedure.initial script.args) .start 0 stages finale
        last ∧
      run config fresh procedure script =
        ⟨some (Replay.performer.finished (site config fresh procedure script) procedure.name
          script.args 0 stages finale), judge terminal last finale.ending⟩ := by
  obtain ⟨invocation, last, ran, judged⟩ :=
    exists_invoke_of_checked checked config fresh procedure
  rw [Performer.invoke_of_quiet _
    (show (site config fresh procedure script).config.hooks.Quiet from quiet),
    Option.map_eq_some_iff] at ran
  obtain ⟨⟨stages, finale, final⟩, found, same⟩ := ran
  cases same
  exact ⟨stages, finale, final, Performer.course_of_start found, judged⟩

/-- **Verification is sound and complete.** With hooks that do not panic and a
script without fault, a verification finds nothing wrong with a procedure
exactly if the procedure follows the script. -/
theorem verdict_eq_ok_none_iff (quiet : config.hooks.Quiet) (fresh : RunId)
    (procedure : Procedure) (checked : script.checked = .ok terminal) :
    (run config fresh procedure script).verdict = .ok none ↔
      procedure.Follows script terminal := by
  obtain ⟨stages, finale, last, course, ran⟩ := exists_course quiet fresh procedure checked
  rw [ran]
  exact judge_course_iff (show (site config fresh procedure script).config.hooks.Quiet from quiet)
    course terminal

/-- An errand with two commands side by side throws the failure that its batch is given. -/
theorem verdict_errand :
    let config : Config := ⟨none, none, ⟨[.recorder]⟩⟩
    let batch : Suspension := .all [.ofType "get", .ofType "put"]
    let failure : Failure := ⟨.handler, "oops"⟩
    let script : Script := ⟨.null, [⟨batch, .error failure⟩], none, some (.throws failure), none⟩
    let procedure : Procedure := .errand "fetch" batch
    config.hooks.Quiet ∧ script.checked = .ok (.throws failure) ∧
      procedure.Follows script (.throws failure) ∧
      (run config ⟨"run"⟩ procedure script).verdict = .ok none := by
  intro config batch failure script procedure
  have follows : procedure.Follows script (.throws failure) :=
    conforms_cons_iff.mpr ⟨⟨batch, rfl, rfl⟩, conforms_nil_iff.mpr rfl⟩
  have verdict : (run config ⟨"run"⟩ procedure script).verdict = .ok none ↔
      procedure.Follows script (.throws failure) :=
    verdict_eq_ok_none_iff Hooks.quiet_recorder ⟨"run"⟩ procedure rfl
  exact ⟨Hooks.quiet_recorder, rfl, follows, verdict.mpr follows⟩

end Verification

end Resumable
