import Resumable.Suspension
import Resumable.Verify.Violation

/-!
# Scripts

A `Script` declares how a computation should go: suspensions with the outcomes they are given, and
how it settles in the end. It is built clause by clause. A last suspension without an outcome of its
own is given the one that the computation settles with. The first clause that does not fit is
remembered as the script's fault, and `Script.checked` gives the terminal of a finished script that
has no fault.
-/

namespace Resumable

open Json (Value)

/-- A suspension and the outcome it is given. -/
structure Expectation where
  suspension : Suspension
  outcome : Outcome
deriving DecidableEq

/-- How a computation should settle. -/
inductive Terminal
  | returns (value : Value)
  | throws (failure : Failure)
deriving DecidableEq

namespace Terminal

def outcome : Terminal → Outcome
  | returns value => .ok value
  | throws failure => .error failure

end Terminal

/-- Why a script is no script. -/
inductive Script.Fault
  /-- A suspension is declared after the terminal. -/
  | afterTerminal (declared : Suspension)
  /-- A suspension is declared while an earlier one has no outcome. -/
  | beforeOutcome (declared earlier : Suspension)
  /-- An outcome is given and no suspension waits for one. -/
  | nothingPending (given : Outcome)
  | secondTerminal
deriving DecidableEq

namespace Script.Fault

def message : Script.Fault → String
  | afterTerminal declared =>
    "suspension " ++ declared.toJson.compact ++ " declared after the terminal expectation"
  | beforeOutcome declared earlier =>
    "suspension " ++ declared.toJson.compact ++ " declared before " ++ earlier.toJson.compact ++
      " was given an injected outcome"
  | nothingPending (.ok _) => "`yield_returns` without a preceding expected command"
  | nothingPending (.error _) => "`yield_throws` without a preceding expected command"
  | secondTerminal => "more than one terminal expectation"

end Script.Fault

/-- One clause of a script. -/
inductive Clause
  | suspends (suspension : Suspension)
  | gives (outcome : Outcome)
  | ends (terminal : Terminal)
deriving DecidableEq

/-- A declaration of how a computation should go, perhaps not finished. -/
structure Script where
  args : Value
  expectations : List Expectation
  /-- A suspension that has no outcome yet. -/
  pending : Option Suspension
  terminal : Option Terminal
  /-- The first clause that did not fit. -/
  fault : Option Script.Fault
deriving DecidableEq

namespace Script

def ofArgs (args : Value) : Script :=
  ⟨args, [], none, none, none⟩

/-- Remembers a fault unless there was one before. -/
def blame (script : Script) (fault : Script.Fault) : Script :=
  { script with fault := script.fault.or (some fault) }

/-- What is wrong with declaring a suspension now. -/
def suspensionFault? (script : Script) (suspension : Suspension) : Option Script.Fault :=
  match script.terminal, script.pending with
  | some _, _ => some (.afterTerminal suspension)
  | none, some earlier => some (.beforeOutcome suspension earlier)
  | none, none => none

def suspends (script : Script) (suspension : Suspension) : Script :=
  { script with
    pending := some suspension
    fault := script.fault.or (script.suspensionFault? suspension) }

def gives (script : Script) (outcome : Outcome) : Script :=
  match script.pending with
  | some suspension =>
    { script with
      expectations := script.expectations ++ [⟨suspension, outcome⟩]
      pending := none }
  | none => script.blame (.nothingPending outcome)

/-- Declares the terminal, which also gives a pending suspension its outcome. -/
def ends (script : Script) (terminal : Terminal) : Script :=
  match script.terminal, script.pending with
  | some _, _ => script.blame .secondTerminal
  | none, some suspension =>
    { script with
      expectations := script.expectations ++ [⟨suspension, terminal.outcome⟩]
      pending := none
      terminal := some terminal }
  | none, none => { script with terminal := some terminal }

def append (script : Script) : Clause → Script
  | .suspends suspension => script.suspends suspension
  | .gives outcome => script.gives outcome
  | .ends terminal => script.ends terminal

def ofClauses (args : Value) (clauses : List Clause) : Script :=
  clauses.foldl append (ofArgs args)

/-- The script of a computation that returns what its only command gives. -/
def single (args : Value) (command : Command) (value : Value) : Script :=
  ((ofArgs args).suspends (.one command)).ends (.returns value)

/-- The terminal, or why the script is no script. -/
def checked (script : Script) : Except Violation Terminal :=
  match script.fault, script.pending, script.terminal with
  | some fault, _, _ => .error (.malformedScript fault.message)
  | none, some pending, _ =>
    .error (.malformedScript
      ("expected suspension " ++ pending.toJson.compact ++ " has no injected outcome"))
  | none, none, none => .error (.malformedScript "no terminal `returns` or `throws`")
  | none, none, some terminal => .ok terminal

end Script

end Resumable
