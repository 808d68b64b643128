import Resumable.Proofs.StepCount
import Resumable.Proofs.Verify.Conformance

/-! # Verifications end

The loop of a run has no bound of its own, and a computation may suspend for ever. What bounds a
verification is its replay: an outcome that it gives is that of an expectation that it has taken,
and as long as the loop goes on the outcomes given and the expectations left make up the script
(`Replay.Spends`). So the computation is given a start and then outcomes of the script in order,
each once, and it is given up if it suspends when none is left (`Verification.ends_within_script`).
-/

namespace Resumable

open Performer (Act Point)

namespace Performer.Act

variable {δ ε : Type}

/-- A suspension is the answer to an input. -/
theorem suspensions_le (acts : List (Act δ ε)) :
    suspensions acts ≤ (acts.filterMap input?).length := by
  induction acts with
  | nil => exact Nat.le_refl _
  | cons act rest ih =>
      unfold suspensions at ih ⊢
      cases act with
      | performs stage => exact ih
      | resumes input answer =>
          cases suspended : (resumes input answer : Act δ ε).suspension? with
          | none => simpa [suspended, input?] using Nat.le_succ_of_le ih
          | some suspension => simpa [suspended, input?] using ih

end Performer.Act

namespace Replay

variable {τ : Type} {site : Site} {move : τ → Input → Step × τ} {expectations : List Expectation}
  {given : List Outcome} {point next : Point τ Replay Violation}
  {act : Act (List Emission) Violation} {acts : List (Act (List Emission) Violation)}

/-- The outcomes that a replay has given up to a point of a loop are the first of those that are
expected. Until the loop has ended, the expectations that are left give the others. -/
def Spends (expectations : List Expectation) (given : List Outcome) :
    Point τ Replay Violation → Prop
  | .resuming _ _ own _ =>
    given ++ own.remaining.map Expectation.outcome = expectations.map Expectation.outcome
  | .performing _ _ own _ =>
    given ++ own.remaining.map Expectation.outcome = expectations.map Expectation.outcome
  | .ended _ _ => given <+: expectations.map Expectation.outcome

theorem Spends.isPrefix (spends : Spends expectations given point) :
    given <+: expectations.map Expectation.outcome := by
  cases point with
  | resuming session input own now => exact ⟨_, spends⟩
  | performing session suspension own now => exact ⟨_, spends⟩
  | ended finale own => exact spends

/-- **What a replay gives, it takes from its expectations.** -/
theorem Spends.moves (spends : Spends expectations given point)
    (moves : performer.Moves site move point act next) :
    Spends expectations (given ++ act.outcome?.toList) next := by
  have first := spends.isPrefix
  cases moves with
  | refused fed => simpa [Spends, Act.outcome?, Act.stage?] using first
  | settled fed => simpa [Spends, Act.outcome?, Act.stage?] using first
  | suspended fed => simpa [Spends, Act.outcome?, Act.stage?] using spends
  | @resumed session suspension own now performed outcome performs gives =>
      obtain rfl := Option.some.inj performs
      obtain ⟨expectation, rest, left, _, rfl⟩ := settled_of_perform gives
      have spent : given ++ own.remaining.map Expectation.outcome =
          expectations.map Expectation.outcome := spends
      rw [left, List.map_cons] at spent
      simpa [Spends, Act.outcome?, Act.stage?, gives, Ending.outcome?, state_perform left]
        using spent
  | stopped performs stops =>
      simpa [Spends, Act.outcome?, Act.stage?, Ending.outcome?_eq_none stops] using first

theorem spends_of_history {session : Session τ} {input : Input} {taken now : Nat}
    (history : performer.History site move (.resuming session input ⟨expectations, taken⟩ now)
      acts point) : Spends expectations (acts.filterMap Act.outcome?) point := by
  induction history with
  | start => rfl
  | @step acts point next act history moves ih =>
      have last : [act].filterMap Act.outcome? = act.outcome?.toList := by
        rw [List.filterMap_cons]
        cases act.outcome? <;> rfl
      rw [List.filterMap_append, last]
      exact ih.moves moves

end Replay

namespace Verification

/-- What the loop of a verification does is bounded by the script. -/
structure Bounded (expectations : List Expectation)
    (acts : List (Act (List Emission) Violation)) : Prop where
  /-- The computation is given a start, and then the outcome of one expectation after another. -/
  given : acts.filterMap Act.input? <+: .start :: expectations.map Expectation.input
  resumed : (acts.filterMap Act.input?).length ≤ expectations.length + 1
  /-- The computation suspends once for each expectation, and perhaps once more. -/
  suspended : Act.suspensions acts ≤ expectations.length + 1
  performed : (acts.filterMap Act.stage?).length ≤ expectations.length + 1

theorem bounded_of_history {site : Site} {procedure : Procedure} {args : Json.Value}
    {expectations : List Expectation} {now : Nat} {acts : List (Act (List Emission) Violation)}
    {point : Point procedure.State Replay Violation}
    (history : Replay.performer.History site procedure.move
      (.begin procedure args (.ofList expectations) now) acts point) :
    Bounded expectations acts := by
  have obeys := history.obeys
  have given : acts.filterMap Act.input? <+: .start :: expectations.map Expectation.input := by
    have outcomes := (Replay.spends_of_history history).isPrefix.map Input.ofOutcome
    rw [List.map_map] at outcomes
    have inputs : acts.filterMap Act.input? <+:
        .start :: (acts.filterMap Act.outcome?).map .ofOutcome := ⟨_, obeys.given⟩
    exact inputs.trans ((List.prefix_cons_inj _).mpr outcomes)
  have resumed := given.length_le
  rw [List.length_cons, List.length_map] at resumed
  have suspended := Nat.le_trans (Act.suspensions_le acts) resumed
  refine ⟨given, resumed, suspended, ?_⟩
  have asked := congrArg List.length obeys.asked
  rw [List.length_append, List.length_map, List.length_zipIdx] at asked
  unfold Act.suspensions at suspended
  omega

/-- **A verification ends**, also that of a computation that suspends for ever, and whatever its
hooks do. Its loop comes to an end, and up to there the computation is given one input more than
the script has expectations at most, and suspends as often at most. A script without fault has the
verdict on this end, unless a hook panics before the loop begins; another is not tried at all. -/
theorem ends_within_script (config : Config) (fresh : RunId) (procedure : Procedure)
    (script : Script) :
    let place := site config fresh procedure script
    let verification := run config fresh procedure script
    ∃ acts finale last,
      Replay.performer.History place procedure.move
        (.begin procedure script.args (.ofList script.expectations) 0) acts (.ended finale last) ∧
      (∀ others point,
        Replay.performer.History place procedure.move
          (.begin procedure script.args (.ofList script.expectations) 0) others point →
        others <+: acts) ∧
      Bounded script.expectations acts ∧
      match script.checked with
      | .error violation => verification = ⟨none, .ok (some violation)⟩
      | .ok terminal => ∃ invocation, verification = ⟨some invocation,
          judge terminal last invocation.ending⟩ ∧
        ((∃ message, invocation.opened.panic? = some message ∧ invocation.stages = [] ∧
            verification.verdict = .error message) ∨
          invocation.stages = acts.filterMap Act.stage? ∧
            Replay.performer.Concludes place procedure.name script.args 0 finale invocation) := by
  intro place verification
  let replay := Replay.ofList script.expectations
  obtain ⟨⟨stages, finale, last⟩, staged⟩ := Option.isSome_iff_exists.mp
    (Replay.stages_isSome place procedure.move (replay.remaining.length + 1) replay
      (procedure.session script.args) .start 0 (Nat.lt_succ_self _))
  obtain ⟨acts, history, rfl⟩ := Performer.history_of_course (Performer.course_of_start staged)
    (Session.refusal?_fresh _) rfl rfl
  refine ⟨acts, finale, last, history, fun others point before => before.prefix_of_ended history,
    bounded_of_history history, ?_⟩
  cases checked : script.checked with
  | error violation => exact run_of_fault checked config fresh procedure
  | ok terminal =>
      obtain ⟨invocation, final, ran, judged⟩ :=
        exists_invoke_of_checked checked config fresh procedure
      refine ⟨invocation, ?_⟩
      obtain ⟨_, ⟨message, panics, unstaged, _, unwound⟩ | ⟨finale', staged', concludes⟩⟩ :=
        Performer.invoke_cases ran
      · rw [unwound] at judged ⊢
        exact ⟨judged, .inl ⟨message, panics, unstaged, congrArg Verification.verdict judged⟩⟩
      · obtain ⟨stages, rfl, rfl⟩ : acts.filterMap Act.stage? = invocation.stages ∧
            finale = finale' ∧ last = final := by
          simpa using staged.symm.trans staged'
        exact ⟨judged, .inr ⟨stages.symm, concludes⟩⟩

/-- A computation that gets for ever is given the two outcomes of its script, and is given up at
its third suspension. -/
theorem ends_within_script_of_endless :
    let config : Config := ⟨none, none, ⟨[.recorder]⟩⟩
    let get : Suspension := .one (.ofType "get")
    let script : Script :=
      ⟨.null, [⟨get, .ok .null⟩, ⟨get, .ok .null⟩], none, some (.returns .null), none⟩
    let procedure : Procedure := ⟨"endless", Unit, fun _ => (), fun _ _ => (.suspend get, ())⟩
    (run config ⟨"run"⟩ procedure script).verdict = .ok (some (.overrun 2 get.toJson)) ∧
      ∃ acts, Bounded script.expectations acts ∧ (acts.filterMap Act.stage?).length = 3 := by
  intro config get script procedure
  obtain ⟨acts, finale, last, history, _, bounded, verdict⟩ :=
    ends_within_script config ⟨"run"⟩ procedure script
  have given_up : (run config ⟨"run"⟩ procedure script).verdict =
      .ok (some (.overrun 2 get.toJson)) := rfl
  refine ⟨given_up, acts, bounded, ?_⟩
  have checked : script.checked = .ok (.returns .null) := rfl
  rw [checked] at verdict
  obtain ⟨invocation, ran, ⟨message, panics, _, unwound⟩ | ⟨staged, _⟩⟩ := verdict
  · rw [unwound] at given_up
    cases given_up
  · have performed : (run config ⟨"run"⟩ procedure script).invocation.map
        (·.stages.length) = some 3 := rfl
    rw [ran] at performed
    rw [← staged]
    exact Option.some.inj performed

end Verification

end Resumable
