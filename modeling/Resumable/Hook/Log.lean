import Resumable.Hook
import Resumable.Json.Description

/-!
# Log entries

`LogEntry.ofRecord` turns a record into one log entry. Arguments, payloads and results are only
written when values are shown; the entry of a failed invocation or command always names its
failure. `LogEntry.ofWarning` is the entry for an error that a hook reported.
-/

namespace Resumable

open Json (Value Fields)

inductive LogLevel
  | debug
  | warn
deriving DecidableEq

namespace LogLevel

def name : LogLevel → String
  | debug => "DEBUG"
  | warn => "WARN"

end LogLevel

structure LogEntry where
  level : LogLevel
  target : String
  message : String
  fields : List (String × Value)
deriving DecidableEq

namespace LogEntry

def resultText : Option Value → String
  | none => "None"
  | some value => "Some(" ++ value.description ++ ")"

def failureText : Option Failure → String
  | none => "None"
  | some failure =>
    "Some(" ++ failure.kind.label ++ "(" ++ Text.visible failure.message ++ "))"

/-- The field that holds a value when values are shown. -/
def shown (showValues : Bool) (name text : String) : List (String × Value) :=
  if showValues then [(name, .string text)] else []

/-- The level, the message and the last field of the entry for something that has settled. -/
def settled (showValues : Bool) (subject : String) (completion : Completion) :
    LogLevel × String × List (String × Value) :=
  if completion.success then
    (.debug, subject ++ " complete",
      shown showValues "result" (resultText completion.result))
  else
    (.warn, subject ++ " failed", [("failure", .string (failureText completion.failure))])

def ofRecord (showValues : Bool) (record : Record) : LogEntry :=
  let place : List (String × Value) :=
    [("cid", .string record.trace.run.text),
      ("depth", .count record.trace.depth)]
  let target := "stepfx::telemetry"
  match record.event with
  | .call procedure args _ =>
    ⟨.debug, target, "call",
      place ++ [("procedure", .string procedure)] ++ shown showValues "args" args.compact⟩
  | .callComplete procedure _ _ steps completion =>
    let (level, message, extra) := settled showValues "call" completion
    ⟨level, target, message,
      place ++
        [("procedure", .string procedure), ("latency_us", .word completion.latency.micros),
          ("steps", .word steps)] ++ extra⟩
  | .command command step index _ =>
    ⟨.debug, target, "command",
      place ++ [("kind", .string command.type), ("step", .word step), ("index", .word index)] ++
        shown showValues "command" command.text⟩
  | .commandComplete command step index _ completion =>
    let (level, message, extra) := settled showValues "command" completion
    ⟨level, target, message,
      place ++
        [("kind", .string command.type), ("step", .word step), ("index", .word index),
          ("latency_us", .word completion.latency.micros)] ++ extra⟩

/-- The entry for an error that a hook reported about a record. -/
def ofWarning (record : Record) (error : Hook.Error) : LogEntry :=
  ⟨.warn, "stepfx_hooks", "telemetry hook failed",
    [("point", .string record.kind.label), ("cid", .string record.trace.run.text),
      ("error", .string error.text)]⟩

def toJson (entry : LogEntry) : Value :=
  .object (Fields.ofList
    [("level", .string entry.level.name), ("target", .string entry.target),
      ("message", .string entry.message), ("fields", .object (Fields.ofList entry.fields))])

end LogEntry

/-- A hook that writes a log entry for every record. -/
structure LogHook where
  /-- Whether arguments, payloads and results are written. -/
  showValues : Bool

namespace LogHook

/-- The kinds it hears, all of them. -/
def kinds (_hook : LogHook) : List EventKind :=
  EventKind.all

def entries (hook : LogHook) (record : Record) : List LogEntry :=
  [LogEntry.ofRecord hook.showValues record]

def text (hook : LogHook) : String :=
  "TracingHook \x7b capture_values: " ++ toString hook.showValues ++ " \x7d"

end LogHook

end Resumable
