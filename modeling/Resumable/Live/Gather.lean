import Resumable.Failure

/-!
# Gathering a batch

The commands of a batch report in the order in which they settle; one whose dispatch dies never
reports. `gather` reads the reports in that order: the first failure is the batch's failure, and
otherwise the batch succeeds with the values by position once all commands have reported.
-/

namespace Resumable

open Json (Value)

/-- The outcome of one command of a batch. -/
structure Report where
  index : Nat
  outcome : Outcome
deriving DecidableEq

namespace Gather

/-- The failure of a batch some of whose commands never report. -/
def incomplete : Failure :=
  ⟨.panicked, "fan-out task ended without a result"⟩

/-- Reads reports until `missing` more values have come or a failure has. -/
def collect (values : List (Option Value)) : (missing : Nat) → List Report → Outcome
  | 0, _ => .ok (.array (values.map fun value => value.getD .null))
  | _ + 1, [] => .error incomplete
  | missing + 1, ⟨index, .ok value⟩ :: rest => collect (values.set index (some value)) missing rest
  | _ + 1, ⟨_, .error failure⟩ :: _ => .error failure

end Gather

/-- The outcome of a batch of `size` commands from its reports in order of arrival. -/
def gather (size : Nat) (reports : List Report) : Outcome :=
  Gather.collect (List.replicate size none) size reports

end Resumable
