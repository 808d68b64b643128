import Resumable.Invocation

/-!
# Prepared answers

A performer that gives prepared answers in turn, whatever it is asked, and keeps what it was asked.
Past its last answer it halts the run.
-/

namespace Resumable.Scenario

/-- A prepared answer to a suspension. -/
inductive Answer
  | settle (outcome : Outcome)
  | halt (reason : String)
deriving DecidableEq

structure Question where
  suspension : Suspension
  step : Nat
  /-- How many invocations enclose the one that asks. -/
  depth : Nat
deriving DecidableEq

namespace Answer

def ending : Answer → Ending String
  | settle outcome => .settled outcome
  | halt reason => .halted reason

/-- The performer whose state are the answers that are left. -/
def performer : Performer (List Answer) Question String where
  perform := fun answers site suspension step now =>
    some
      ⟨answers.drop 1, ⟨suspension, step, site.depth⟩, now,
        (answers.head?.getD (halt "exhausted")).ending⟩
  errorText := id

end Answer

/-- Runs a procedure with prepared answers. Each of them, and the halt after them, comes after one
input. -/
def invokeWith (answers : List Answer) (site : Site) (procedure : Procedure)
    (args : Json.Value) : Option (Invocation Question String) :=
  (Answer.performer.invoke site procedure args 0 (answers.length + 1) answers).map Prod.fst

end Resumable.Scenario
