import Resumable.Proofs.Loop
import Resumable.Proofs.Verify.Conformance

/-! # A verification finds the first deviation

With quiet hooks a verification goes along with its computation as long as this
meets the script's expectations (`Procedure.Meets`), and gives it up at the first
suspension that does not. `Replay.went_of_course` says so of the course of any
computation under a replay. What is found wrong then names the step, the expected
and the actual suspension at which the run was given up, and nothing is done or
emitted after it; a violation of any other kind says how a computation settled, early
or in another way than the terminal declares (`Verification.verdict_explained`).
-/

namespace Resumable

open Json (Value)

/-- The suspension is the expected one. -/
def Expectation.Describes (expectation : Expectation) (suspension : Suspension) : Prop :=
  Value.difference? expectation.suspension.toJson suspension.toJson = none

/-- The suspension of a step that is not the last. -/
def Step.suspension? : Step → Option Suspension
  | suspend suspension => some suspension
  | _ => none

/-- Given `input` and then the outcomes of the first expectations, a computation in state
`state` suspends on `met`, as expected, and then gives another answer. -/
structure Meets {τ : Type} (move : τ → Input → Step × τ) (state : τ) (input : Input)
    (expectations : List Expectation) (met : List Suspension) (answer : Step) : Prop where
  described : ∀ (i : Nat) (suspension : Suspension), met[i]? = some suspension →
    ∃ expectation, expectations[i]? = some expectation ∧ expectation.Describes suspension
  answered : answers move state (input :: (expectations.take met.length).map Expectation.input) =
    met.map .suspend ++ [answer]

/-- Computations of the procedure with the script's arguments meet the first expectations of the
script and then give another answer. -/
def Procedure.Meets (procedure : Procedure) (script : Script) (met : List Suspension)
    (answer : Step) : Prop :=
  Resumable.Meets procedure.move (procedure.initial script.args) .start script.expectations met
    answer

namespace Meets

variable {τ : Type} {move : τ → Input → Step × τ} {state after : τ} {input : Input}
  {expectations rest : List Expectation} {met : List Suspension} {answer : Step}

theorem nil (expectations : List Expectation) :
    Meets move state input expectations [] (move state input).1 :=
  ⟨nofun, rfl⟩

theorem cons {expectation : Expectation} {suspension : Suspension}
    (suspends : move state input = (.suspend suspension, after))
    (same : expectation.Describes suspension)
    (meets : Meets move after expectation.input rest met answer) :
    Meets move state input (expectation :: rest) (suspension :: met) answer := by
  refine ⟨?_, ?_⟩
  · intro i later found
    cases i with
    | zero =>
        cases found
        exact ⟨expectation, rfl, same⟩
    | succ i => exact meets.described i later found
  · rw [answers, suspends]
    exact congrArg (.suspend suspension :: ·) meets.answered

theorem length_le (meets : Meets move state input expectations met answer) :
    met.length ≤ expectations.length := by
  apply Nat.le_of_not_lt
  intro short
  obtain ⟨expectation, found, _⟩ := meets.described _ _ (List.getElem?_eq_getElem short)
  rw [List.getElem?_eq_none (Nat.le_refl _)] at found
  cases found

end Meets

namespace Replay

/-- The records of suspensions that met expectations in order, the first at step `step`. -/
def matched (site : Site) (step now : Nat) (met : List Suspension)
    (expectations : List Expectation) : List Emission :=
  ((met.zip expectations).zipIdx step).flatMap fun item =>
    emissions site item.1.1 item.2 now item.1.2.outcome

/-- How a run ends, and what of a replay is left, when its computation has met the first `count`
expectations and then gives an answer. -/
inductive Ends (expectations : List Expectation) (taken count : Nat) :
    Step → Ending Violation → Replay → Prop
  | mismatch {suspension : Suspension} {expectation : Expectation} {difference : Json.Difference}
      {last : Replay} (expected : expectations[count]? = some expectation)
      (differs : Value.difference? expectation.suspension.toJson suspension.toJson =
        some difference) :
      Ends expectations taken count (.suspend suspension)
        (.halted (.commandMismatch (taken + count) difference)) last
  | overrun {suspension : Suspension} {last : Replay} (beyond : count = expectations.length) :
      Ends expectations taken count (.suspend suspension)
        (.halted (.overrun (taken + count) suspension.toJson)) last
  | settled {outcome : Outcome} :
      Ends expectations taken count (.ofOutcome outcome) (.settled outcome)
        ⟨expectations.drop count, taken + count⟩

theorem Ends.cons {expectation : Expectation} {rest : List Expectation} {taken count : Nat}
    {answer : Step} {ending : Ending Violation} {last : Replay}
    (ends : Ends rest (taken + 1) count answer ending last) :
    Ends (expectation :: rest) taken (count + 1) answer ending last := by
  have moved : taken + 1 + count = taken + (count + 1) := by omega
  cases ends with
  | mismatch expected differs =>
      rw [moved]
      exact .mismatch expected differs
  | overrun beyond =>
      rw [moved]
      exact .overrun (congrArg (· + 1) beyond)
  | settled =>
      rw [moved]
      exact .settled

/-- What the course of a computation is like that met suspensions from its step `step` on and then
gave another answer. -/
structure Went (site : Site) (step now : Nat) (replay : Replay) (met : List Suspension)
    (answer : Step) (stages : List (Stage (List Emission) Violation)) (finale : Finale Violation)
    (last : Replay) : Prop where
  asked : stages.map (fun stage => (stage.suspension, stage.step)) =
    (met ++ answer.suspension?.toList).zipIdx step
  given : stages.filterMap (fun stage => stage.ending.outcome?) =
    (replay.remaining.take met.length).map Expectation.outcome
  emitted : stages.flatMap Stage.evidence = matched site step now met replay.remaining
  finish : finale.finish = now
  steps : finale.steps = step + met.length
  ends : Ends replay.remaining replay.taken met.length answer finale.ending last

variable {site : Site} {τ : Type} {move : τ → Input → Step × τ} {step now : Nat}

theorem went_of_settled (outcome : Outcome) (replay : Replay) :
    Went site step now replay [] (.ofOutcome outcome) [] ⟨now, step, .settled outcome⟩ replay where
  asked := by cases outcome <;> rfl
  given := rfl
  emitted := rfl
  finish := rfl
  steps := rfl
  ends := .settled

/-- **A computation goes along with the expectations that it meets.** -/
theorem went_of_course (quiet : site.config.hooks.Quiet) {replay last : Replay} {state : τ}
    {input : Input} {stages : List (Stage (List Emission) Violation)} {finale : Finale Violation}
    (course : performer.Course site move step replay state input now stages finale last) :
    ∃ met answer, Meets move state input replay.remaining met answer ∧
      Went site step now replay met answer stages finale last := by
  induction course with
  | @done step now replay state after input value answer =>
      refine ⟨[], _, .nil _, ?_⟩
      rw [answer]
      exact went_of_settled (.ok value) replay
  | @failed step now replay state after input failure answer =>
      refine ⟨[], _, .nil _, ?_⟩
      rw [answer]
      exact went_of_settled (.error failure) replay
  | @stopped step now replay state after input suspension performed answer performs stops =>
      obtain rfl := Option.some.inj performs
      refine ⟨[], _, .nil _, ?_⟩
      rw [answer]
      -- Only a violation halts the replay here: the hooks are quiet.
      have performs := replay.performs site suspension step now
      have answered := performs.not_unwound quiet
      generalize replay.perform site suspension step now = performed at performs answered stops ⊢
      cases performs with
      | overruns => exact ⟨rfl, rfl, rfl, rfl, rfl, .overrun rfl⟩
      | differs found => exact ⟨rfl, rfl, rfl, rfl, rfl, .mismatch rfl found⟩
      | gives same calm => exact absurd rfl (stops _)
      | unwinds same whole calm panics => exact absurd rfl (answered _)
  | @resumed step now replay last state after input suspension performed outcome stages finale
      answer performs settles rest ih =>
      obtain rfl := Option.some.inj performs
      obtain ⟨expectation, others, left, same, rfl⟩ := settled_of_perform settles
      obtain ⟨remaining, taken⟩ := replay
      obtain rfl : remaining = expectation :: others := left
      rw [perform_of_same quiet same] at ih ⊢
      obtain ⟨met, final, meets, went⟩ := ih
      refine ⟨suspension :: met, final, .cons answer same meets, ?_, ?_, ?_, went.finish, ?_, ?_⟩
      · exact congrArg ((suspension, step) :: ·) went.asked
      · exact congrArg (expectation.outcome :: ·) went.given
      · exact congrArg (emissions site suspension step now expectation.outcome ++ ·) went.emitted
      · rw [went.steps, List.length_cons]
        omega
      · exact went.ends.cons

end Replay

namespace Verification

variable {config : Config} {fresh : RunId} {procedure : Procedure} {script : Script}

/-- The loop of a verification does `acts` up to its end, and there is nothing else that it does. -/
structure Does (config : Config) (fresh : RunId) (procedure : Procedure) (script : Script)
    (acts : List (Performer.Act (List Emission) Violation)) : Prop where
  ends : ∃ finale last,
    Replay.performer.History (site config fresh procedure script) procedure.move
      (.begin procedure script.args (.ofList script.expectations) 0) acts (.ended finale last)
  only : ∀ others point,
    Replay.performer.History (site config fresh procedure script) procedure.move
      (.begin procedure script.args (.ofList script.expectations) 0) others point →
    others <+: acts
  stages : (run config fresh procedure script).invocation.map Invocation.stages =
    some (acts.filterMap Performer.Act.stage?)

/-- The verification tries a computation that meets expectations and then gives another answer: it
gives the computation a start and the outcomes of the expectations that it meets, asks the replay
for its suspensions, each with its number, and emits the records of the suspensions that are met
between the first record and the last, which shows the outcome `reported`. -/
structure Tries (config : Config) (fresh : RunId) (procedure : Procedure) (script : Script)
    (met : List Suspension) (answer : Step) (reported : Outcome) : Prop where
  meets : procedure.Meets script met answer
  loop : ∃ acts, Does config fresh procedure script acts ∧
    acts.filterMap Performer.Act.input? =
      .start :: (script.expectations.take met.length).map Expectation.input ∧
    (acts.filterMap Performer.Act.stage?).map (fun stage => (stage.suspension, stage.step)) =
      (met ++ answer.suspension?.toList).zipIdx
  emissions : (run config fresh procedure script).emissions =
    let place := site config fresh procedure script
    place.emit 0 (.call procedure.name script.args (.ofMillis 0)) ::
      (Replay.matched place 0 0 met script.expectations ++
        [place.emit 0 (.callComplete procedure.name script.args (.ofMillis 0)
          (UInt64.ofNat met.length) (.ofOutcome (.ofMillis 0) (.ofMillis 0) reported))])

/-- The outcome that the last record of a verification shows when a violation halts it. -/
def aborted (violation : Violation) : Outcome :=
  .error ⟨.aborted, violation.message⟩

/-- What a violation that is found says of the script and of the procedure's computation. -/
def Explains (config : Config) (fresh : RunId) (procedure : Procedure) (script : Script)
    (violation : Violation) : Prop :=
  match violation with
  | .malformedScript _ =>
    script.checked = .error violation ∧ (run config fresh procedure script).invocation = none
  | .commandMismatch step difference =>
    ∃ met suspension expectation,
      Tries config fresh procedure script met (.suspend suspension) (aborted violation) ∧
      met.length = step ∧ script.expectations[step]? = some expectation ∧
      Value.difference? expectation.suspension.toJson suspension.toJson = some difference
  | .overrun step actual =>
    ∃ met suspension,
      Tries config fresh procedure script met (.suspend suspension) (aborted violation) ∧
      met.length = step ∧ step = script.expectations.length ∧ suspension.toJson = actual
  | .unconsumed consumed remaining next =>
    ∃ met outcome expectation,
      Tries config fresh procedure script met (.ofOutcome outcome) outcome ∧
      met.length = consumed ∧ consumed < script.expectations.length ∧
      consumed + remaining = script.expectations.length ∧
      script.expectations[consumed]? = some expectation ∧ expectation.suspension.toJson = next
  | .returnMismatch difference =>
    ∃ met expected actual,
      Tries config fresh procedure script met (.done actual) (.ok actual) ∧
      met.length = script.expectations.length ∧ script.checked = .ok (.returns expected) ∧
      Value.difference? expected actual = some difference
  | .unexpectedFailure expected actual =>
    ∃ met, Tries config fresh procedure script met (.failed actual) (.error actual) ∧
      met.length = script.expectations.length ∧ script.checked = .ok (.returns expected)
  | .unexpectedReturn expected actual =>
    ∃ met, Tries config fresh procedure script met (.done actual) (.ok actual) ∧
      met.length = script.expectations.length ∧ script.checked = .ok (.throws expected)
  | .failureMismatch expected actual =>
    ∃ met, Tries config fresh procedure script met (.failed actual) (.error actual) ∧
      met.length = script.expectations.length ∧ script.checked = .ok (.throws expected) ∧
      expected ≠ actual

theorem checked_eq_error {violation : Violation} (found : script.checked = .error violation) :
    ∃ reason, violation = .malformedScript reason := by
  unfold Script.checked at found
  split at found <;> cases found
  · exact ⟨_, rfl⟩
  · exact ⟨_, rfl⟩
  · exact ⟨_, rfl⟩

theorem tries_of_went {met : List Suspension} {answer : Step} {reported : Outcome}
    {acts : List (Performer.Act (List Emission) Violation)} {finale : Finale Violation}
    {last : Replay} {verdict : Except String (Option Violation)}
    (meets : procedure.Meets script met answer)
    (went : Replay.Went (site config fresh procedure script) 0 0 (.ofList script.expectations) met
      answer (acts.filterMap Performer.Act.stage?) finale last)
    (history : Replay.performer.History (site config fresh procedure script) procedure.move
      (.begin procedure script.args (.ofList script.expectations) 0) acts (.ended finale last))
    (ran : run config fresh procedure script =
      ⟨some (Replay.performer.finished (site config fresh procedure script) procedure.name
        script.args 0 (acts.filterMap Performer.Act.stage?) finale), verdict⟩)
    (reports : Replay.performer.reported? finale.ending = some reported) :
    Tries config fresh procedure script met answer reported := by
  refine ⟨meets, ⟨acts, ⟨⟨finale, last, history⟩, ?_, ?_⟩, ?_, went.asked⟩, ?_⟩
  · intro others point before
    exact before.prefix_of_ended history
  · rw [ran]
    rfl
  · have outcomes : acts.filterMap Performer.Act.outcome? =
        (script.expectations.take met.length).map Expectation.outcome := by
      have staged := went.given
      rw [List.filterMap_filterMap] at staged
      exact staged
    have given : acts.filterMap Performer.Act.input? ++ [] =
        .start :: (acts.filterMap Performer.Act.outcome?).map .ofOutcome := history.obeys.given
    rw [outcomes, List.map_map, List.append_nil] at given
    exact given
  · have steps := went.steps
    rw [Nat.zero_add] at steps
    rw [ran]
    simp only [emissions, ScriptedInvocation.emissions, Performer.finished, Performer.closing,
      reports, went.emitted, went.finish, steps, Option.map_some, Option.getD_some,
      Option.toList_some]
    rfl

/-- A verification with quiet hooks goes along with its computation. -/
theorem exists_went (quiet : config.hooks.Quiet) (fresh : RunId) (procedure : Procedure)
    {terminal : Terminal} (checked : script.checked = .ok terminal) :
    ∃ met answer ending last,
      Replay.Ends script.expectations 0 met.length answer ending last ∧
      (run config fresh procedure script).verdict = judge terminal last ending ∧
      ∀ reported, Replay.performer.reported? ending = some reported →
        Tries config fresh procedure script met answer reported := by
  have quiet' : (site config fresh procedure script).config.hooks.Quiet := quiet
  obtain ⟨stages, finale, last, course, ran⟩ := exists_course quiet fresh procedure checked
  have accepted : (procedure.session script.args).refusal? .start = none :=
    Session.refusal?_fresh _
  obtain ⟨acts, history, rfl⟩ := Performer.history_of_course course accepted rfl rfl
  obtain ⟨met, answer, meets, went⟩ := Replay.went_of_course quiet' course
  refine ⟨met, answer, finale.ending, last, went.ends, ?_, ?_⟩
  · rw [ran]
  · intro reported reports
    exact tries_of_went meets went history ran reports

/-- What is found wrong with a computation that met all expectations and settled. -/
theorem explains_of_violation? {met : List Suspension} {outcome : Outcome} {terminal : Terminal}
    {violation : Violation}
    (tries : Tries config fresh procedure script met (.ofOutcome outcome) outcome)
    (all : met.length = script.expectations.length) (checked : script.checked = .ok terminal)
    (found : terminal.violation? outcome = some violation) :
    Explains config fresh procedure script violation := by
  cases terminal with
  | returns expected =>
      cases outcome with
      | ok actual =>
          obtain ⟨difference, differs, rfl⟩ := Option.map_eq_some_iff.mp found
          exact ⟨met, expected, actual, tries, all, checked, differs⟩
      | error actual =>
          cases found
          exact ⟨met, tries, all, checked⟩
  | throws expected =>
      cases outcome with
      | ok actual =>
          cases found
          exact ⟨met, tries, all, checked⟩
      | error actual =>
          by_cases same : expected = actual
          · rw [Terminal.violation?, if_pos same] at found
            cases found
          · rw [Terminal.violation?, if_neg same] at found
            cases found
            exact ⟨met, tries, all, checked, same⟩

/-- A computation that settled is judged, and what is found wrong with it says how it settled. -/
theorem judge_settled {met : List Suspension} {outcome : Outcome} {terminal : Terminal}
    {replay : Replay} (tries : Tries config fresh procedure script met (.ofOutcome outcome) outcome)
    (left : replay.remaining = script.expectations.drop met.length)
    (taken : replay.taken = met.length) (checked : script.checked = .ok terminal) :
    ∃ verdict, judge terminal replay (.settled outcome) = .ok verdict ∧
      ∀ violation, verdict = some violation →
        Explains config fresh procedure script violation := by
  have short : met.length ≤ script.expectations.length := tries.meets.length_le
  have size : replay.remaining.length = script.expectations.length - met.length := by
    rw [left, List.length_drop]
  cases remaining : replay.remaining with
  | nil =>
      have all : met.length = script.expectations.length := by
        rw [remaining, List.length_nil] at size
        omega
      simp only [judge, remaining]
      refine ⟨_, rfl, ?_⟩
      intro violation found
      exact explains_of_violation? tries all checked found
  | cons next rest =>
      have expected : script.expectations[met.length]? = some next := by
        have head : replay.remaining.head? = script.expectations[met.length]? := by
          rw [left, List.head?_drop]
        rw [← head, remaining]
        rfl
      have inside : met.length < script.expectations.length :=
        (List.getElem?_eq_some_iff.mp expected).1
      simp only [judge, remaining]
      refine ⟨_, rfl, ?_⟩
      rintro violation same
      cases same
      rw [remaining] at size
      rw [taken]
      refine ⟨met, outcome, next, tries, rfl, inside, ?_, expected, rfl⟩
      omega

/-- **A verification finds the first deviation, and nothing happens after it.** With hooks that do
not panic a verification always has a verdict, and a violation tells where the computation and the
script part: at a suspension, at which the computation is given up for good, or at the end. A
script with a fault is not tried at all. -/
theorem verdict_explained (quiet : config.hooks.Quiet) (fresh : RunId) (procedure : Procedure)
    (script : Script) :
    ∃ verdict, (run config fresh procedure script).verdict = .ok verdict ∧
      ∀ violation, verdict = some violation →
        Explains config fresh procedure script violation := by
  cases checked : script.checked with
  | error violation =>
      obtain ⟨reason, rfl⟩ := checked_eq_error checked
      have ran := run_of_fault checked config fresh procedure
      refine ⟨some (.malformedScript reason), ?_, ?_⟩
      · rw [ran]
      · rintro violation same
        cases same
        refine ⟨checked, ?_⟩
        rw [ran]
  | ok terminal =>
      obtain ⟨met, answer, ending, last, ends, judged, tries⟩ :=
        exists_went quiet fresh procedure checked
      rw [judged]
      cases ends with
      | @mismatch suspension expectation difference _ expected differs =>
          rw [Nat.zero_add] at tries ⊢
          refine ⟨_, rfl, ?_⟩
          rintro violation same
          cases same
          exact ⟨met, suspension, expectation, tries _ rfl, rfl, expected, differs⟩
      | @overrun suspension _ beyond =>
          rw [Nat.zero_add] at tries ⊢
          refine ⟨_, rfl, ?_⟩
          rintro violation same
          cases same
          exact ⟨met, suspension, tries _ rfl, rfl, beyond, rfl⟩
      | settled =>
          rw [Nat.zero_add]
          exact judge_settled (tries _ rfl) rfl rfl checked

/-- A procedure that goes on to put where its script expects a post: it is given its start and
the one outcome, and is given up at its second suspension. -/
theorem verdict_of_put :
    let config : Config := ⟨none, none, ⟨[.recorder]⟩⟩
    let script : Script :=
      ⟨.null, [⟨.one (.ofType "get"), .ok (.bool true)⟩, ⟨.one (.ofType "post"), .ok .null⟩], none,
        some (.returns .null), none⟩
    let procedure : Procedure :=
      ⟨"pair", Nat, fun _ => 0, fun issued _ =>
        (.suspend (.one (.ofType (if issued = 0 then "get" else "put"))), issued + 1)⟩
    let deviation : Violation :=
      .commandMismatch 1 ⟨[.key "type"], some (.string "post"), some (.string "put")⟩
    (run config ⟨"run"⟩ procedure script).verdict = .ok (some deviation) ∧
      ∃ met suspension, met.length = 1 ∧
        Tries config ⟨"run"⟩ procedure script met (.suspend suspension) (aborted deviation) := by
  intro config script procedure deviation
  have quiet : config.hooks.Quiet := Hooks.quiet_recorder
  obtain ⟨verdict, found, explains⟩ := verdict_explained quiet ⟨"run"⟩ procedure script
  have halted : (run config ⟨"run"⟩ procedure script).verdict = .ok (some deviation) := rfl
  obtain rfl := Except.ok.inj (found.symm.trans halted)
  obtain ⟨met, suspension, _, tries, step, _⟩ := explains deviation rfl
  exact ⟨halted, met, suspension, step, tries⟩

end Verification

end Resumable
