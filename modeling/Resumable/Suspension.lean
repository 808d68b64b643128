import Resumable.Command

/-!
# Suspensions

A computation suspends on a single command or on a batch of commands that run side by side. As JSON
a single command is its flat form and a batch is an array, so the two never look alike.
-/

namespace Resumable

open Json (Value)

inductive Suspension
  | one (command : Command)
  /-- A batch of commands that run side by side. -/
  | all (commands : List Command)
deriving DecidableEq

namespace Suspension

/-- The commands in order; a single command has position zero. -/
def commands : Suspension → List Command
  | one command => [command]
  | all commands => commands

def size (suspension : Suspension) : Nat :=
  suspension.commands.length

/-- The JSON form: a flat command, or an array of them. -/
def toJson : Suspension → Value
  | one command => command.toJson
  | all commands => .array (commands.map Command.toJson)

/-- Reads an array as a batch and anything else as a single command, or reports the first command
that cannot be read. -/
def ofJson : Value → Except Command.Refusal Suspension
  | .array elements => do return all (← elements.mapM Command.ofJson)
  | value => do return one (← Command.ofJson value)

/-- Reads the wire form, which is tried as a single command first and then as a batch. -/
def ofWire? (value : Value) : Option Suspension :=
  match Command.ofWire? value with
  | some command => some (one command)
  | none => do
    let elements ← value.elements?
    return all (← elements.mapM Command.ofWire?)

/-- The wire form, with every command assembled entry by entry. -/
def toWire : Suspension → Value
  | one command => command.toWire
  | all commands => .array (commands.map Command.toWire)

/-- Equality of suspensions that keeps integers and binary64 numbers apart; zero has no sign. -/
def strictEq : Suspension → Suspension → Bool
  | one left, one right => left.strictEq right
  | all lefts, all rights =>
    lefts.length == rights.length && (lefts.zip rights).all fun pair => pair.1.strictEq pair.2
  | _, _ => false

end Suspension

end Resumable
