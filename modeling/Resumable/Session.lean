import Resumable.Suspension

/-!
# Sessions

A computation is given inputs and answers each with a step: it suspends, or it is done or failed for
good. A `Session` guards a computation with state `σ`: it lets a first `Input.start` through, then
values and failures while the computation is suspended, and refuses everything else without touching
the computation.
-/

namespace Resumable

open Json (Value)

inductive Input
  | start
  /-- Go on with the value that the suspension gave. -/
  | value (value : Value)
  /-- Go on with the failure of the suspension. -/
  | throw (failure : Failure)
deriving DecidableEq

namespace Input

/-- The outcome that an input carries; a start carries `null`. -/
def outcome : Input → Outcome
  | start => .ok .null
  | value given => .ok given
  | throw failure => .error failure

/-- The input that passes an outcome on. -/
def ofOutcome : Outcome → Input
  | .ok given => .value given
  | .error failure => .throw failure

def isStart : Input → Bool
  | start => true
  | _ => false

end Input

/-- What a computation answers to an input. -/
inductive Step
  | suspend (suspension : Suspension)
  | done (value : Value)
  | failed (failure : Failure)
deriving DecidableEq

namespace Step

/-- The last step of a computation that settles with an outcome. -/
def ofOutcome : Outcome → Step
  | .ok value => .done value
  | .error failure => .failed failure

def isTerminal : Step → Bool
  | suspend _ => false
  | _ => true

end Step

inductive Phase
  | fresh
  | suspended
  | finished
deriving DecidableEq

/-- Why a session refuses an input. -/
inductive Session.Refusal
  | alreadyStarted
  | notStarted
  | finished (steps : Nat)
deriving DecidableEq

namespace Session.Refusal

def message : Session.Refusal → String
  | alreadyStarted => "computation already started"
  | notStarted => "computation has not started"
  | finished steps => "computation already finished after " ++ toString steps ++ " step(s)"

end Session.Refusal

/-- A computation with state `σ`, and what its guard knows about it. -/
structure Session (σ : Type) where
  phase : Phase
  /-- How many inputs the computation was given after its start. It is the number that a counter of
  64 bits shows until there have been `2 ^ 64` of them. -/
  steps : Nat
  state : σ

namespace Session

variable {σ : Type}

def fresh (state : σ) : Session σ :=
  ⟨.fresh, 0, state⟩

def isFinished (session : Session σ) : Bool :=
  session.phase == .finished

/-- Why an input is refused, if it is. -/
def refusal? (session : Session σ) (input : Input) : Option Session.Refusal :=
  match session.phase, input.isStart with
  | .finished, _ => some (.finished session.steps)
  | .fresh, true => none
  | .fresh, false => some .notStarted
  | .suspended, true => some .alreadyStarted
  | .suspended, false => none

/-- Passes an input on to the computation, which moves by `move`. -/
def advance (move : σ → Input → Step × σ) (session : Session σ) (input : Input) :
    Step × Session σ :=
  let (step, state) := move session.state input
  (step,
    { phase := if step.isTerminal then .finished else .suspended
      steps := if input.isStart then session.steps else session.steps + 1
      state })

/-- Gives the computation an input, unless it is refused. -/
def feed (move : σ → Input → Step × σ) (session : Session σ) (input : Input) :
    Except Session.Refusal (Step × Session σ) :=
  match session.refusal? input with
  | some refusal => .error refusal
  | none => .ok (session.advance move input)

/-- Gives the computation inputs one after another: what it answers to each, and the session after
it. An input that is refused leaves the session as it was. -/
def feedAll (move : σ → Input → Step × σ) (session : Session σ) :
    List Input → List (Except Session.Refusal Step × Session σ)
  | [] => []
  | input :: rest =>
    match session.feed move input with
    | .error refusal => (.error refusal, session) :: session.feedAll move rest
    | .ok (step, after) => (.ok step, after) :: after.feedAll move rest

end Session

end Resumable
