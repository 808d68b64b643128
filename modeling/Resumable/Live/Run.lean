import Resumable.Live.Tally

/-!
# Live runs

A `Host` runs procedures with its handlers. `Host.run` runs one from the outside: under a new root
site, at virtual time zero, with every counter giving its next number, with some description of the
tasks that die, and perhaps with a caller who drops the run at some time. The numbers that were
given carry over to the next run.
-/

namespace Resumable

open Json (Value)

/-- A run that was started from the outside. -/
structure LiveRun where
  invocation : LiveInvocation
  /-- Whether the caller dropped it before its end. -/
  abandoned : Bool

namespace LiveRun

/-- A run as its caller leaves it: dropped at `cutoff` unless it ends before. -/
def ofInvocation (cutoff : Option Nat) (invocation : LiveInvocation) : LiveRun :=
  match cutoff with
  | none => ⟨invocation, false⟩
  | some time =>
    if invocation.endedBy time then ⟨invocation, false⟩ else ⟨invocation.abandon time, true⟩

def draws (run : LiveRun) : List Draw :=
  run.invocation.draws

def emissions (run : LiveRun) : List Emission :=
  timeline run.invocation.emissions

end LiveRun

/-- What procedures are run with. -/
structure Host : Type 1 where
  handlers : Handlers

namespace Host

/-- How deep runs may nest, how often one may suspend, and how often one may be played again. -/
def limit : Nat := 100000

/-- The run of a procedure that is given a runtime and has resources for `fuel`. -/
def play (host : Host) (runtime : Runtime) (fuel : Nat) (config : Config) (fresh : RunId)
    (procedure : Procedure) (args : Value) (cutoff : Option Nat) : Option LiveRun :=
  (invoke host.handlers runtime fuel (.root config fresh) [] procedure args 0).map
    (.ofInvocation cutoff)

/-- Runs a procedure when counters have given `counts` numbers. -/
def run (host : Host) (describe : Death → String) (config : Config) (fresh : RunId)
    (procedure : Procedure) (args : Value) (cutoff : Option Nat) (counts : Counts) :
    Option (LiveRun × Counts) := do
  let run ← Tally.settle
    (fun numbering => host.play ⟨numbering, describe⟩ limit config fresh procedure args cutoff)
    LiveRun.draws counts limit
  pure (run, Tally.after counts run.draws)

/-- Dispatches a suspension on its own at virtual time zero, with fresh counters: a single command
with an index, or a batch. -/
def dispatch (host : Host) (describe : Death → String) (site : Site) (suspension : Suspension)
    (step index : Nat) : Option (Performance Unit (List Dispatch) Empty) :=
  Tally.settle
    (fun numbering =>
      Dispatch.suspension host.handlers ⟨numbering, describe⟩
        (invoke host.handlers ⟨numbering, describe⟩ limit) site [] suspension step index 0)
    (fun performed => performed.evidence.flatMap Dispatch.draws) (fun _ => 0) limit

def text (host : Host) : String :=
  "Interpreter \x7b handlers: " ++ host.handlers.text ++ " \x7d"

end Host

end Resumable
