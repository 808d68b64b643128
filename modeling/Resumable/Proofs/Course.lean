import Resumable.Proofs.Quiet

/-! # The course of a computation under a performer

`Performer.Course` says step by step how a computation goes when a performer
answers its suspensions: it mentions the computation's own moves, the numbers of
its steps and the performer's state, and neither a session nor a bound on the
number of inputs. The stages of a run are such a course
(`Performer.course_of_stages`), since a session lets a start and then the
outcome of every suspension through.
-/

namespace Resumable

open Json (Value)

/-- A procedure that suspends once and settles with the outcome it is given. -/
def Procedure.errand (name : String) (suspension : Suspension) : Procedure where
  name := name
  State := Bool
  initial := fun _ => false
  move := fun issued input =>
    if issued then (.ofOutcome input.outcome, issued) else (.suspend suspension, true)

/-- The steps with which a computation in state `state` answers inputs one after another. -/
def answers {τ : Type} (move : τ → Input → Step × τ) : (state : τ) → List Input → List Step
  | _, [] => []
  | state, input :: rest => (move state input).1 :: answers move (move state input).2 rest

/-- The state of a computation after inputs that it was given in state `state`. -/
def stateAfter {τ : Type} (move : τ → Input → Step × τ) (state : τ) (inputs : List Input) : τ :=
  inputs.foldl (fun state input => (move state input).2) state

theorem answers_concat {τ : Type} (move : τ → Input → Step × τ) (state : τ) (inputs : List Input)
    (input : Input) :
    answers move state (inputs ++ [input]) =
      answers move state inputs ++ [(move (stateAfter move state inputs) input).1] := by
  induction inputs generalizing state with
  | nil => rfl
  | cons first rest ih => exact congrArg ((move state first).1 :: ·) (ih (move state first).2)

theorem stateAfter_concat {τ : Type} (move : τ → Input → Step × τ) (state : τ)
    (inputs : List Input) (input : Input) :
    stateAfter move state (inputs ++ [input]) = (move (stateAfter move state inputs) input).2 := by
  rw [stateAfter, List.foldl_append]
  rfl

namespace Session

variable {σ : Type} {move : σ → Input → Step × σ} {session : Session σ} {input : Input}

/-- The number that a session gives the suspension with which its computation
answers an input. -/
def stepAfter (session : Session σ) (input : Input) : Nat :=
  if input.isStart then session.steps else session.steps + 1

theorem refusal?_fresh (state : σ) : (fresh state).refusal? .start = none := rfl

theorem isStart_ofOutcome (outcome : Outcome) : (Input.ofOutcome outcome).isStart = false := by
  cases outcome <;> rfl

theorem feed_of_accepted (accepted : session.refusal? input = none) :
    session.feed move input =
      .ok ((move session.state input).1,
        ⟨if (move session.state input).1.isTerminal then .finished else .suspended,
          session.stepAfter input, (move session.state input).2⟩) := by
  rw [feed, accepted]
  rfl

/-- A session passes on what its computation answers to an input that it accepts. -/
theorem feed_of_answer {step : Step} {after : σ} (accepted : session.refusal? input = none)
    (answer : move session.state input = (step, after)) :
    session.feed move input =
      .ok (step, ⟨if step.isTerminal then .finished else .suspended, session.stepAfter input,
        after⟩) := by
  rw [feed_of_accepted accepted, answer]

/-- A suspended session accepts the outcome of its suspension. -/
theorem refusal?_suspended (steps : Nat) (state : σ) (outcome : Outcome) :
    (⟨.suspended, steps, state⟩ : Session σ).refusal? (.ofOutcome outcome) = none := by
  simp only [refusal?, isStart_ofOutcome]

theorem stepAfter_suspended (steps : Nat) (state : σ) (outcome : Outcome) :
    (⟨.suspended, steps, state⟩ : Session σ).stepAfter (.ofOutcome outcome) = steps + 1 := by
  simp only [stepAfter, isStart_ofOutcome, Bool.false_eq_true, ↓reduceIte]

end Session

namespace Performer

variable {σ δ ε τ : Type}

/-- The computation in state `state` is given `input` and goes on as the performer
answers it. The first suspension has number `step`. -/
inductive Course (performer : Performer σ δ ε) (site : Site) (move : τ → Input → Step × τ) :
    (step : Nat) → σ → (state : τ) → (input : Input) → (now : Nat) →
      List (Stage δ ε) → Finale ε → σ → Prop
  | done {step now : Nat} {own : σ} {state after : τ} {input : Input} {value : Value}
      (answer : move state input = (.done value, after)) :
      Course performer site move step own state input now [] ⟨now, step, .settled (.ok value)⟩ own
  | failed {step now : Nat} {own : σ} {state after : τ} {input : Input} {failure : Failure}
      (answer : move state input = (.failed failure, after)) :
      Course performer site move step own state input now []
        ⟨now, step, .settled (.error failure)⟩ own
  /-- The performer gives no outcome. -/
  | stopped {step now : Nat} {own : σ} {state after : τ} {input : Input} {suspension : Suspension}
      {performed : Performance σ δ ε}
      (answer : move state input = (.suspend suspension, after))
      (performs : performer.perform own site suspension step now = some performed)
      (stops : ∀ outcome, performed.ending ≠ .settled outcome) :
      Course performer site move step own state input now
        [⟨suspension, step, now, performed.evidence, performed.finish, performed.ending⟩]
        ⟨performed.finish, step, performed.ending⟩ performed.state
  /-- The computation goes on with the outcome of its suspension. -/
  | resumed {step now : Nat} {own last : σ} {state after : τ} {input : Input}
      {suspension : Suspension} {performed : Performance σ δ ε} {outcome : Outcome}
      {stages : List (Stage δ ε)} {finale : Finale ε}
      (answer : move state input = (.suspend suspension, after))
      (performs : performer.perform own site suspension step now = some performed)
      (settles : performed.ending = .settled outcome)
      (rest : Course performer site move (step + 1) performed.state after (.ofOutcome outcome)
        performed.finish stages finale last) :
      Course performer site move step own state input now
        (⟨suspension, step, now, performed.evidence, performed.finish, performed.ending⟩ :: stages)
        finale last

/-- **Stages are a course.** What a session accepts reaches the computation, so
the stages of a run are the computation's own course. -/
theorem course_of_stages {performer : Performer σ δ ε} {site : Site}
    {move : τ → Input → Step × τ} {fuel : Nat} {own last : σ} {session : Session τ}
    {input : Input} {now : Nat} {stages : List (Stage δ ε)} {finale : Finale ε}
    (accepted : session.refusal? input = none)
    (found : performer.stages site move fuel own session input now = some (stages, finale, last)) :
    performer.Course site move (session.stepAfter input) own session.state input now stages finale
      last := by
  induction fuel generalizing own session input now stages with
  | zero => cases found
  | succ fuel ih =>
      rw [Performer.stages, Session.feed_of_accepted accepted] at found
      cases answer : move session.state input with
      | mk step after =>
      rw [answer] at found
      cases step with
      | done value =>
          cases found
          exact .done answer
      | failed failure =>
          cases found
          exact .failed answer
      | suspend suspension =>
          simp only [Step.isTerminal, Bool.false_eq_true, ↓reduceIte, Option.bind_eq_bind,
            Option.bind_eq_some_iff] at found
          obtain ⟨performed, performs, found⟩ := found
          split at found
          · rename_i outcome ending
            simp only [Option.pure_def, Option.bind_eq_some_iff] at found
            obtain ⟨⟨others, final, ended⟩, further, same⟩ := found
            cases same
            have rest := ih (Session.refusal?_suspended _ _ _) further
            rw [Session.stepAfter_suspended] at rest
            exact .resumed answer performs ending rest
          · rename_i stops
            cases found
            exact .stopped answer performs stops

/-- The stages of a run from its start are the course of a fresh computation. -/
theorem course_of_start {performer : Performer σ δ ε} {site : Site} {procedure : Procedure}
    {args : Value} {fuel now : Nat} {own last : σ} {stages : List (Stage δ ε)} {finale : Finale ε}
    (found : performer.stages site procedure.move fuel own (procedure.session args) .start now =
      some (stages, finale, last)) :
    performer.Course site procedure.move 0 own (procedure.initial args) .start now stages finale
      last :=
  course_of_stages (Session.refusal?_fresh _) found

/-- A computation that settles was given an input after each of its suspensions. -/
theorem Course.steps_eq {performer : Performer σ δ ε} {site : Site} {move : τ → Input → Step × τ}
    {step now : Nat} {own last : σ} {state : τ} {input : Input} {stages : List (Stage δ ε)}
    {finale : Finale ε} {outcome : Outcome}
    (course : performer.Course site move step own state input now stages finale last)
    (settles : finale.ending = .settled outcome) : finale.steps = step + stages.length := by
  induction course with
  | done answer => rfl
  | failed answer => rfl
  | stopped answer performs stops => exact absurd settles (stops outcome)
  | resumed answer performs gives rest ih =>
      rw [ih settles, List.length_cons]
      omega

section Stages

variable {performer : Performer σ δ ε} {site : Site} {move : τ → Input → Step × τ}
  {step now : Nat} {own last : σ} {state : τ} {input : Input} {stages : List (Stage δ ε)}
  {finale : Finale ε}

/-- The stages of a course are numbered, and the performer performed their suspensions. -/
theorem Course.performed
    (course : performer.Course site move step own state input now stages finale last) {n : Nat}
    {stage : Stage δ ε} (staged : stages[n]? = some stage) :
    stage.step = step + n ∧ ∃ own after,
      performer.perform own site stage.suspension stage.step stage.start =
        some ⟨after, stage.evidence, stage.finish, stage.ending⟩ := by
  induction course generalizing n with
  | done answer => cases staged
  | failed answer => cases staged
  | stopped answer performs stops =>
      cases n with
      | zero =>
          cases staged
          exact ⟨rfl, _, _, performs⟩
      | succ n => cases staged
  | resumed answer performs gives rest ih =>
      cases n with
      | zero =>
          cases staged
          exact ⟨rfl, _, _, performs⟩
      | succ n =>
          obtain ⟨numbered, performed⟩ := ih staged
          exact ⟨by omega, performed⟩

/-- What holds of the evidence of all performances holds of that of a course. -/
theorem Course.evidence (holds : δ → Prop)
    (each : ∀ own suspension step now performed,
      performer.perform own site suspension step now = some performed → holds performed.evidence)
    (course : performer.Course site move step own state input now stages finale last) :
    ∀ stage ∈ stages, holds stage.evidence := by
  intro stage member
  obtain ⟨n, staged⟩ := List.mem_iff_getElem?.mp member
  obtain ⟨_, _, _, performs⟩ := course.performed staged
  exact each _ _ _ _ _ performs

/-- A course begins with its first stage, or settles at once. -/
theorem Course.begins
    (course : performer.Course site move step own state input now stages finale last) :
    (stages[0]?.map Stage.start).getD finale.finish = now := by
  cases course with
  | done answer => rfl
  | failed answer => rfl
  | stopped answer performs stops => rfl
  | resumed answer performs gives rest => rfl

/-- No time passes between a stage and what follows it. -/
theorem Course.follows
    (course : performer.Course site move step own state input now stages finale last) {n : Nat}
    {stage : Stage δ ε} (staged : stages[n]? = some stage) :
    (stages[n + 1]?.map Stage.start).getD finale.finish = stage.finish := by
  induction course generalizing n with
  | done answer => cases staged
  | failed answer => cases staged
  | stopped answer performs stops =>
      cases n with
      | zero =>
          cases staged
          rfl
      | succ n => cases staged
  | resumed answer performs gives rest ih =>
      cases n with
      | zero =>
          cases staged
          exact rest.begins
      | succ n => exact ih staged

end Stages

end Performer

end Resumable
