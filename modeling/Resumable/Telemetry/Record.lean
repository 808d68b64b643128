import Resumable.Suspension
import Resumable.Clock
import Resumable.Telemetry.Trace

/-!
# Telemetry records

Every invocation and every dispatch of a command emits an `Event` when it begins and one when it
settles. A `Record` is an event with its trace.
-/

namespace Resumable

open Json (Value)

inductive EventKind
  | call
  | callComplete
  | command
  | commandComplete
deriving DecidableEq, Repr

namespace EventKind

/-- All kinds, in the order in which a run of one command emits them. -/
def all : List EventKind :=
  [call, command, commandComplete, callComplete]

def name : EventKind → String
  | call => "call"
  | callComplete => "call_complete"
  | command => "command"
  | commandComplete => "command_complete"

def ofName? (name : String) : Option EventKind :=
  all.find? fun kind => kind.name = name

/-- Reads a kind from its name, which may also be the only key of an object, with the value
`null`. -/
def ofJson? (value : Value) : Option EventKind := do
  ofName? (← value.name? Value.isNull)

def label : EventKind → String
  | call => "Call"
  | callComplete => "CallComplete"
  | command => "Command"
  | commandComplete => "CommandComplete"

theorem ofName?_name (kind : EventKind) : ofName? kind.name = some kind := by
  cases kind <;> decide

end EventKind

/-- How something settled, and when. -/
structure Completion where
  finish : Instant
  latency : Duration
  success : Bool
  result : Option Value
  failure : Option Failure
deriving DecidableEq

namespace Completion

/-- The completion at `finish` of what began at `start` and settled with `outcome`. -/
def ofOutcome (start finish : Instant) : Outcome → Completion
  | .ok value => ⟨finish, start.durationTo finish, true, some value, none⟩
  | .error failure => ⟨finish, start.durationTo finish, false, none, some failure⟩

end Completion

/-- What a record reports. -/
inductive Event
  /-- An invocation begins. -/
  | call (procedure : String) (args : Value) (start : Instant)
  /-- An invocation has settled. -/
  | callComplete (procedure : String) (args : Value) (start : Instant) (steps : UInt64)
    (completion : Completion)
  /-- A command is dispatched. -/
  | command (command : Command) (step index : UInt64) (start : Instant)
  /-- A command has settled. -/
  | commandComplete (command : Command) (step index : UInt64) (start : Instant)
    (completion : Completion)
deriving DecidableEq

namespace Event

def kind : Event → EventKind
  | call .. => .call
  | callComplete .. => .callComplete
  | command .. => .command
  | commandComplete .. => .commandComplete

/-- How the reported invocation or command settled, if it has. -/
def completion? : Event → Option Completion
  | callComplete _ _ _ _ completion => some completion
  | commandComplete _ _ _ _ completion => some completion
  | _ => none

/-- Whether the reported invocation or command succeeded, if it has settled. -/
def success? (event : Event) : Option Bool :=
  event.completion?.map Completion.success

def command? : Event → Option Command
  | command issued _ _ _ => some issued
  | commandComplete issued _ _ _ _ => some issued
  | _ => none

end Event

/-- An event and its place. -/
structure Record where
  trace : Trace
  event : Event
deriving DecidableEq

namespace Record

def kind (record : Record) : EventKind :=
  record.event.kind

end Record

end Resumable
