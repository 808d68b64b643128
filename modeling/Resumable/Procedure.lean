import Resumable.Session
import Resumable.Text.Quoted

/-!
# Procedures

A `Procedure` has a name and starts computations: from arguments it makes the first state of a
computation, which then moves from state to state as it is given inputs.
-/

namespace Resumable

open Json (Value)

/-- A named way to start computations. -/
structure Procedure where
  name : String
  State : Type
  /-- A computation that has not begun, with its arguments. -/
  initial : Value → State
  /-- How a computation answers an input. -/
  move : State → Input → Step × State

namespace Procedure

def session (procedure : Procedure) (args : Value) : Session procedure.State :=
  .fresh (procedure.initial args)

/-- The procedure as a log shows it. -/
def text (procedure : Procedure) : String :=
  "Procedure \x7b name: " ++ Text.visible procedure.name ++ " \x7d"

end Procedure

end Resumable
