import Resumable.Proofs.Loop
import Resumable.Verify.Replay

/-! # The number of steps that a run reports

The last record of a run has a number of steps. A session counts the inputs that its
computation is given after the start, and a computation is given one for each of its
suspensions until it settles, so a run that settles reports how often its computation
suspended. A run that its performer gives up does so while the computation is suspended:
the last suspension is not answered, and the run reports one step less than it went
through (`Performer.reports_steps`).
-/

namespace Resumable

open Json (Value)

/-- The number of steps that an event reports. -/
def Event.steps? : Event → Option UInt64
  | callComplete _ _ _ steps _ => some steps
  | _ => none

/-- The last record of the run reports a number of steps, as a word. -/
def Invocation.ReportsSteps {δ ε : Type} (invocation : Invocation δ ε) (steps : Nat) : Prop :=
  ∃ emission, invocation.closed = some emission ∧
    emission.record.event.steps? = some (UInt64.ofNat steps)

namespace Performer

variable {σ δ ε τ : Type}

/-- How often a computation answered with a suspension. -/
def Act.suspensions (acts : List (Act δ ε)) : Nat :=
  (acts.filterMap Act.suspension?).length

section Counts

variable {performer : Performer σ δ ε} {site : Site} {move : τ → Input → Step × τ}
  {step now : Nat} {own last : σ} {state : τ} {input : Input} {stages : List (Stage δ ε)}
  {finale : Finale ε}

/-- A computation whose performer gives no outcome was not given an input after its last
suspension. -/
theorem Course.steps_of_stop
    (course : performer.Course site move step own state input now stages finale last)
    (stops : ∀ outcome, finale.ending ≠ .settled outcome) :
    finale.steps + 1 = step + stages.length := by
  induction course with
  | done answer => exact absurd rfl (stops _)
  | failed answer => exact absurd rfl (stops _)
  | stopped answer performs unsettled => rfl
  | resumed answer performs gives rest ih =>
      have counted := ih stops
      rw [List.length_cons]
      omega

/-- In a history that has come to its end every suspension was performed. -/
theorem Obeys.suspensions_eq {initial : τ} {acts : List (Act δ ε)}
    (obeys : performer.Obeys site move initial own acts (.ended finale last)) :
    Act.suspensions acts = (acts.filterMap Act.stage?).length := by
  have counted := congrArg List.length obeys.asked
  simp only [Point.asked?, Option.toList_none, List.append_nil, List.length_map,
    List.length_zipIdx] at counted
  exact counted.symm

end Counts

section Invoked

variable {performer : Performer σ δ ε} {site : Site} {procedure : Procedure} {args : Value}
  {now fuel : Nat} {own last : σ} {invocation : Invocation δ ε}

theorem reportsSteps_of_completion {name : String} {finale : Finale ε} {outcome : Outcome}
    (closed : invocation.closed = some (completion site name args now finale outcome)) :
    invocation.ReportsSteps finale.steps :=
  ⟨_, closed, rfl⟩

/-- Numbers of steps that follow each other are not reported by one record. -/
theorem not_reportsSteps_succ {steps : Nat} (reports : invocation.ReportsSteps steps) :
    ¬ invocation.ReportsSteps (steps + 1) := by
  rintro ⟨emission, closed, reported⟩
  obtain ⟨emission', closed', reported'⟩ := reports
  obtain rfl : emission = emission' := Option.some.inj (closed.symm.trans closed')
  have same := congrArg UInt64.toNat (Option.some.inj (reported.symm.trans reported'))
  simp only [UInt64.toNat_ofNat'] at same
  omega

/-- **A run reports how often its computation suspended, unless its performer gives it up.** Then
the suspension that the performer was last asked for is not counted. Only a hook that panics on its
first record, or a panic of the performer, keeps a run from reporting. -/
theorem reports_steps
    (found : performer.invoke site procedure args now fuel own = some (invocation, last)) :
    (∃ message, invocation.opened.panic? = some message) ∨
      ∃ acts finale,
        performer.History site procedure.move (.begin procedure args own now) acts
          (.ended finale last) ∧
        performer.Concludes site procedure.name args now finale invocation ∧
        (∀ outcome, finale.ending = .settled outcome →
          invocation.ReportsSteps (Act.suspensions acts)) ∧
        (∀ error, finale.ending = .halted error →
          ∃ answered, Act.suspensions acts = answered + 1 ∧ invocation.ReportsSteps answered ∧
            ¬ invocation.ReportsSteps (Act.suspensions acts)) ∧
        (∀ message, finale.ending = .unwound message → invocation.closed = none) := by
  obtain ⟨_, ⟨message, panics, _⟩ | ⟨finale, staged, concludes⟩⟩ := invoke_cases found
  · exact .inl ⟨message, panics⟩
  have course := course_of_start staged
  obtain ⟨acts, history, stages⟩ := history_of_course course (Session.refusal?_fresh _) rfl rfl
  have suspended : Act.suspensions acts = invocation.stages.length := by
    rw [history.obeys.suspensions_eq, stages]
  refine .inr ⟨acts, finale, history, concludes, ?_, ?_, ?_⟩
  · intro outcome settles
    have steps : finale.steps = Act.suspensions acts := by
      rw [course.steps_eq settles, suspended, Nat.zero_add]
    unfold Concludes at concludes
    rw [settles] at concludes
    rw [← steps]
    exact reportsSteps_of_completion concludes.1
  · intro error halts
    have stops : ∀ outcome, finale.ending ≠ .settled outcome := by
      intro outcome settles
      cases halts.symm.trans settles
    have steps : Act.suspensions acts = finale.steps + 1 := by
      rw [suspended, course.steps_of_stop stops, Nat.zero_add]
    unfold Concludes at concludes
    rw [halts] at concludes
    have reports : invocation.ReportsSteps finale.steps := reportsSteps_of_completion concludes.1
    refine ⟨finale.steps, steps, reports, ?_⟩
    rw [steps]
    exact not_reportsSteps_succ reports
  · intro message unwinds
    unfold Concludes at concludes
    rw [unwinds] at concludes
    exact concludes.1

/-- A performer answers once and then gives up: a run that suspends once reports its one suspension,
and a run that suspends for ever reports one of its two. -/
theorem reports_steps_of_once :
    let performer : Performer Nat Unit Unit :=
      { perform := fun asked _ _ _ now => some ⟨asked + 1, (), now,
          if asked = 0 then .settled (.ok .null) else .halted ()⟩
        errorText := fun _ => "gone" }
    let site : Site := .root ⟨none, none, ⟨[.recorder]⟩⟩ ⟨"run"⟩
    let ask : Suspension := .one (.ofType "get")
    let poll : Procedure := ⟨"poll", Unit, fun _ => (), fun _ _ => (.suspend ask, ())⟩
    (∃ invocation acts finale,
      performer.invoke site (.errand "once" ask) .null 0 2 0 = some (invocation, 1) ∧
      performer.History site (Procedure.errand "once" ask).move
        (.begin (.errand "once" ask) .null 0 0) acts (.ended finale 1) ∧
      invocation.ending = .settled (.ok .null) ∧
      invocation.ReportsSteps (Act.suspensions acts)) ∧
    ∃ invocation acts finale,
      performer.invoke site poll .null 0 2 0 = some (invocation, 2) ∧
      performer.History site poll.move (.begin poll .null 0 0) acts (.ended finale 2) ∧
      invocation.ending = .halted () ∧ ¬ invocation.ReportsSteps (Act.suspensions acts) := by
  intro performer site ask poll
  constructor
  · have found : performer.invoke site (.errand "once" ask) .null 0 2 0 = some _ := rfl
    obtain ⟨message, panics⟩ | ⟨acts, finale, history, concludes, settles, _, _⟩ :=
      reports_steps found
    · cases panics
    · cases finale with
      | mk finish steps ending =>
          cases ending with
          | settled outcome => exact ⟨_, acts, _, found, history, rfl, settles outcome rfl⟩
          | halted error => cases concludes.2
          | unwound message => cases concludes.2
  · have found : performer.invoke site poll .null 0 2 0 = some _ := rfl
    obtain ⟨message, panics⟩ | ⟨acts, finale, history, concludes, _, halts, _⟩ :=
      reports_steps found
    · cases panics
    · cases finale with
      | mk finish steps ending =>
          cases ending with
          | settled outcome => cases concludes.2
          | halted error =>
              obtain ⟨answered, _, _, misses⟩ := halts error rfl
              exact ⟨_, acts, _, found, history, rfl, misses⟩
          | unwound message => cases concludes.2

/-- A computation that suspends on a command which its script lacks went through one suspension, and
the record of its aborted run reports none. -/
theorem reports_no_step_of_overrun :
    let site : Site := .root ⟨none, none, ⟨[.recorder]⟩⟩ ⟨"run"⟩
    let errand : Procedure := .errand "once" (.one (.ofType "get"))
    ∃ invocation acts finale,
      Replay.performer.invoke site errand .null 0 1 (.ofList []) =
        some (invocation, .ofList []) ∧
      Replay.performer.History site errand.move (.begin errand .null (.ofList []) 0) acts
        (.ended finale (.ofList [])) ∧
      Act.suspensions acts = 1 ∧ invocation.ReportsSteps 0 ∧ ¬ invocation.ReportsSteps 1 := by
  intro site errand
  have staged : Replay.performer.stages site errand.move 1 (.ofList []) (errand.session .null)
      .start 0 = some _ := rfl
  obtain ⟨acts, history, stages⟩ :=
    history_of_course (course_of_start staged) (Session.refusal?_fresh _) rfl rfl
  refine ⟨_, acts, _, rfl, history, ?_, ⟨_, rfl, rfl⟩, not_reportsSteps_succ ⟨_, rfl, rfl⟩⟩
  rw [history.obeys.suspensions_eq, stages]
  rfl

end Invoked

end Performer

end Resumable
