import Resumable.Command

/-!
# Violations

A `Violation` says how a computation departs from its script, or why the script itself is no script.
-/

namespace Resumable

open Json (Value Difference)

/-- How a computation departs from its script. -/
inductive Violation
  | malformedScript (reason : String)
  /-- A suspension differs from the expected one. -/
  | commandMismatch (step : Nat) (difference : Difference)
  /-- There is a suspension after the last expected one. -/
  | overrun (step : Nat) (actual : Value)
  /-- The computation settled before the last expected suspension. -/
  | unconsumed (consumed remaining : Nat) (next : Value)
  | returnMismatch (difference : Difference)
  | unexpectedFailure (expected : Value) (actual : Failure)
  | unexpectedReturn (expected : Failure) (actual : Value)
  | failureMismatch (expected actual : Failure)
deriving DecidableEq

namespace Violation

def message : Violation → String
  | malformedScript reason => "malformed script: " ++ reason
  | commandMismatch step difference =>
    "step " ++ toString step ++ ": actual suspension does not match the expected command " ++
      difference.message
  | overrun step actual =>
    "step " ++ toString step ++ ": computation suspended on " ++ actual.compact ++
      " but the script has no more expectations"
  | unconsumed consumed remaining next =>
    "computation settled after " ++ toString consumed ++ " step(s) but " ++ toString remaining ++
      " expectation(s) were never reached; next expected " ++ next.compact
  | returnMismatch difference => "return value does not match " ++ difference.message
  | unexpectedFailure expected actual =>
    "expected return " ++ expected.compact ++ " but the computation failed: " ++ actual.text
  | unexpectedReturn expected actual =>
    "expected failure `" ++ expected.text ++ "` but the computation returned " ++ actual.compact
  | failureMismatch expected actual =>
    "expected failure `" ++ expected.text ++ "` but the computation failed with `" ++
      actual.text ++ "`"

/-- The words of an assertion that a procedure follows its script. -/
def assertion (procedure : String) (violation : Violation) : String :=
  "protocol violation in `" ++ procedure ++ "`: " ++ violation.message

end Violation

end Resumable
