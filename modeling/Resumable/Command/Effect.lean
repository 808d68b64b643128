import Resumable.Command
import Resumable.Text.Quoted

/-!
# A vocabulary of typed commands

An `Effect` is a typed request: fetching or posting to an address, sleeping, or a ping.
`Effect.toCommand` gives its command. `Effect.decode` reads one back, ignoring fields that the
effect does not have, and fails as a handler does when the command is none of the vocabulary.
-/

namespace Resumable

open Json (Value Number Fields)

inductive Effect
  | httpGet (url : String)
  | httpPost (url : String) (body : Value)
  | sleep (ms : UInt64)
  | ping
deriving DecidableEq

namespace Effect

/-- The type of field that an effect wants. -/
inductive Wanted
  | text
  | word
deriving DecidableEq

/-- Why a command is none of the vocabulary. -/
inductive DecodeError
  | unknownType (type : String)
  | missingField (name : String)
  | invalidField (found : Value) (wanted : Wanted)
deriving DecidableEq

def Wanted.phrase : Wanted → String
  | text => "a string"
  | word => "u64"

/-- A value in the words of an error: what it is and, if it is short, which. -/
def foundText : Value → String
  | .null => "null"
  | .bool value => "boolean `" ++ toString value ++ "`"
  | .number (.int value _) => "integer `" ++ toString value ++ "`"
  | .number (.double value) => "floating point `" ++ value.text ++ "`"
  | .string value => "string " ++ Text.visible value
  | .array _ => "sequence"
  | .object _ => "map"

/-- Whether the fault is the value rather than its type: an integer where a word is wanted. -/
def isInvalidValue : Value → Wanted → Bool
  | .number (.int _ _), .word => true
  | _, _ => false

namespace DecodeError

def message : DecodeError → String
  | unknownType type =>
    "unknown variant `" ++ type ++ "`, expected one of `httpGet`, `httpPost`, `sleep`, `ping`"
  | missingField name => "missing field `" ++ name ++ "`"
  | invalidField found wanted =>
    (if isInvalidValue found wanted then "invalid value: " else "invalid type: ") ++
      foundText found ++ ", expected " ++ wanted.phrase

end DecodeError

def toCommand : Effect → Command
  | httpGet url => (Command.ofType "httpGet").withField "url" (.string url)
  | httpPost url body =>
    ((Command.ofType "httpPost").withField "url" (.string url)).withField "body" body
  | sleep ms => (Command.ofType "sleep").withField "ms" (.word ms)
  | ping => Command.ofType "ping"

def anyField (command : Command) (name : String) : Except DecodeError Value :=
  match command.get? name with
  | some value => .ok value
  | none => .error (.missingField name)

def textField (command : Command) (name : String) : Except DecodeError String := do
  let value ← anyField command name
  match value.string? with
  | some text => .ok text
  | none => .error (.invalidField value .text)

def wordField (command : Command) (name : String) : Except DecodeError UInt64 := do
  let value ← anyField command name
  match value.word? with
  | some word => .ok word
  | none => .error (.invalidField value .word)

def ofCommand (command : Command) : Except DecodeError Effect :=
  match command.type with
  | "httpGet" => do return httpGet (← textField command "url")
  | "httpPost" => do return httpPost (← textField command "url") (← anyField command "body")
  | "sleep" => do return sleep (← wordField command "ms")
  | "ping" => .ok ping
  | other => .error (.unknownType other)

/-- Reads the effect of a command, as a handler does: what cannot be read is a handler failure. -/
def decode (command : Command) : Except Failure Effect :=
  (ofCommand command).mapError fun error =>
    ⟨.handler, "malformed `" ++ command.type ++ "` command: " ++ error.message⟩

end Effect

end Resumable
