import Resumable.Telemetry.Record

/-!
# Wire form of records

A record is written as one flat object: its trace, the kind of its event, and the event's fields.
A missing result or failure is written as `null`. A reader ignores unknown fields, takes a missing
result or failure for `null`, and knows the kind of a record by its name or by its position in
`Event.wireKinds`. An event without a trace gives its kind by name alone, and is also read from an
array of its kind and the values of its fields.
-/

namespace Resumable

open Json (Value Fields)

namespace Completion

def entries (completion : Completion) : List (String × Value) :=
  [("end", .word completion.finish.micros), ("latency", .word completion.latency.micros),
    ("success", .bool completion.success), ("result", completion.result.getD .null),
    ("failure", (completion.failure.map Failure.toJson).getD .null)]

/-- Reads a failure that may be left out. -/
def failureOf? (value : Value) : Option (Option Failure) :=
  match value.present? with
  | none => some none
  | some present => (Failure.ofRecordJson? present).map some

def ofParts? (finish latency success result failure : Value) : Option Completion := do
  pure ⟨⟨← finish.word?⟩, ⟨← latency.word?⟩, ← success.bool?, result.present?, ← failureOf? failure⟩

end Completion

namespace Event

/-- The kinds of events in the order of their positions. -/
def wireKinds : List EventKind :=
  [.call, .callComplete, .command, .commandComplete]

/-- Reads the kind of a record from its name or its position. -/
def kindOf? : Value → Option EventKind
  | .string name => EventKind.ofName? name
  | value => do wireKinds[(← value.word?).toNat]?

/-- The fields of an event, the kind left out. -/
def details : Event → List (String × Value)
  | call procedure args start =>
    [("procedure", .string procedure), ("args", args), ("start", .word start.micros)]
  | callComplete procedure args start steps completion =>
    [("procedure", .string procedure), ("args", args), ("start", .word start.micros),
      ("steps", .word steps)] ++ completion.entries
  | command issued step index start =>
    [("command", issued.toWire), ("step", .word step), ("index", .word index),
      ("start", .word start.micros)]
  | commandComplete issued step index start completion =>
    [("command", issued.toWire), ("step", .word step), ("index", .word index),
      ("start", .word start.micros)] ++ completion.entries

/-- The fields of an event, its kind first. -/
def entries (event : Event) : List (String × Value) :=
  ("kind", .string event.kind.name) :: event.details

/-- The names of the fields of an event in order, the kind left out. -/
def fieldNames : EventKind → List String
  | .call => ["procedure", "args", "start"]
  | .callComplete =>
    ["procedure", "args", "start", "end", "latency", "steps", "success", "result", "failure"]
  | .command => ["command", "step", "index", "start"]
  | .commandComplete =>
    ["command", "step", "index", "start", "end", "latency", "success", "result", "failure"]

/-- The value of a field; a result and a failure may be left out. -/
def valueOf? (fields : Fields none) (name : String) : Option Value :=
  (fields.get? name).or (if name = "result" ∨ name = "failure" then some .null else none)

/-- Reads an event from the values of its fields in order. -/
def ofValues? : EventKind → List Value → Option Event
  | .call, [procedure, args, start] => do
    pure (call (← procedure.string?) args ⟨← start.word?⟩)
  | .callComplete,
      [procedure, args, start, finish, latency, steps, success, result, failure] => do
    pure (callComplete (← procedure.string?) args ⟨← start.word?⟩ (← steps.word?)
      (← Completion.ofParts? finish latency success result failure))
  | .command, [issued, step, index, start] => do
    pure (command (← Command.ofWire? issued) (← step.word?) (← index.word?) ⟨← start.word?⟩)
  | .commandComplete,
      [issued, step, index, start, finish, latency, success, result, failure] => do
    pure (commandComplete (← Command.ofWire? issued) (← step.word?) (← index.word?)
      ⟨← start.word?⟩ (← Completion.ofParts? finish latency success result failure))
  | _, _ => none

/-- Reads an event of a known kind from its fields. -/
def ofFields? (kind : EventKind) (fields : Fields none) : Option Event := do
  ofValues? kind (← (fieldNames kind).mapM (valueOf? fields))

/-- Reads an event without a trace from its fields, or from an array of the name of its kind and
their values in order. -/
def ofJson? : Value → Option Event
  | .object fields => do
    ofFields? (← EventKind.ofName? (← (← fields.get? "kind").string?)) fields
  | .array (kind :: values) => do
    ofValues? (← EventKind.ofName? (← kind.string?)) values
  | _ => none

end Event

namespace Record

def fields (record : Record) : Fields none :=
  Fields.ofList (("trace", record.trace.toJson) :: record.event.entries)

def toJson (record : Record) : Value :=
  .object record.fields

/-- The wire form without what the clock told. -/
def timelessJson (record : Record) : Value :=
  .object (((record.fields.erase "start").erase "end").erase "latency")

def ofJson? : Value → Option Record
  | .object fields => do
    let kind ← Event.kindOf? (← fields.get? "kind")
    pure ⟨← Trace.ofJson? (← fields.get? "trace"), ← Event.ofFields? kind fields⟩
  | _ => none

end Record

end Resumable
