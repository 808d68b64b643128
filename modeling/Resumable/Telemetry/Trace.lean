import Resumable.Json.Equality

/-!
# Traces

A `Trace` says where in a tree of invocations a record belongs: the run's name and identity, and the
frames from the outermost invocation to the one that emits the record.
-/

namespace Resumable

open Json (Value Fields)

/-- The identity that all records of one run share. -/
structure RunId where
  text : String
deriving DecidableEq

/-- One invocation on a stack. -/
structure Frame where
  procedure : String
  args : Value
  /-- The command types that have handlers. -/
  handlers : List String
deriving DecidableEq

/-- Where in a tree of invocations a record belongs. -/
structure Trace where
  name : Option String
  run : RunId
  /-- The frames, the outermost first. -/
  stack : List Frame
deriving DecidableEq

namespace Frame

def toJson (frame : Frame) : Value :=
  .object (Fields.ofList
    [("procedure", .string frame.procedure), ("args", frame.args),
      ("handlers", .strings frame.handlers)])

def ofParts? (procedure args handlers : Value) : Option Frame := do
  pure ⟨← procedure.string?, args, ← handlers.strings?⟩

/-- Reads a frame from its fields or from an array of their values. -/
def ofJson? : Value → Option Frame
  | .object fields => do
    ofParts? (← fields.get? "procedure") (← fields.get? "args") (← fields.get? "handlers")
  | .array [procedure, args, handlers] => ofParts? procedure args handlers
  | _ => none

theorem ofJson?_toJson (frame : Frame) : ofJson? frame.toJson = some frame := by
  simp [toJson, ofJson?, ofParts?, Fields.ofList, Fields.get?_insert, Value.string?,
    Value.strings?_strings]

end Frame

namespace Trace

/-- How many invocations enclose the place. -/
def depth (trace : Trace) : Nat :=
  trace.stack.length

def current? (trace : Trace) : Option Frame :=
  trace.stack.getLast?

def toJson (trace : Trace) : Value :=
  .object (Fields.ofList
    [("name", .ofString? trace.name), ("cid", .string trace.run.text),
      ("stack", .array (trace.stack.map Frame.toJson))])

/-- Reads a run's name, which `null` leaves out. -/
def nameOf? : Value → Option (Option String)
  | .null => some none
  | .string name => some (some name)
  | _ => none

def ofParts? (name run stack : Value) : Option Trace := do
  pure ⟨← nameOf? name, ⟨← run.string?⟩, ← (← stack.elements?).mapM Frame.ofJson?⟩

/-- Reads a trace from its fields, the name of which may be missing, or from an array of their
values. -/
def ofJson? : Value → Option Trace
  | .object fields => do
    ofParts? ((fields.get? "name").getD .null) (← fields.get? "cid") (← fields.get? "stack")
  | .array [name, run, stack] => ofParts? name run stack
  | _ => none

theorem nameOf?_ofString? (name : Option String) : nameOf? (.ofString? name) = some name := by
  cases name <;> rfl

theorem ofJson?_toJson (trace : Trace) : ofJson? trace.toJson = some trace := by
  simp [toJson, ofJson?, ofParts?, Fields.ofList, Fields.get?_insert, Value.string?,
    nameOf?_ofString?, Value.elements?, Value.mapM_map_of_reads Frame.ofJson?_toJson]

end Trace

end Resumable
