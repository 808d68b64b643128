import Resumable.Command.Effect
import Resumable.Handler
import Resumable.Scenario.Program

/-!
# Behaviours

A `HandlerSpec` is a handler written down as data: a behaviour and how long it sleeps before. The
behaviours that run procedures look them up by name among the programs at hand.
`HandlerSpec.handler` gives a specification its meaning and `HandlerSpec.ofJson?` reads it.
-/

namespace Resumable.Scenario

open Json (Value Fields)

/-- What a handler does after its sleep. -/
inductive Behaviour
  /-- Gives the payload field `value`. -/
  | echo
  | payload
  | const (value : Value)
  | fail (failure : Failure)
  /-- Fails with the payload field `reason`. -/
  | failMessage
  | panic (message : String)
  /-- Gives the next number of its own counter. -/
  | count
  /-- Decodes the command as an effect and gives the effect's command. -/
  | decode
  /-- Runs a procedure, named here or in the payload. -/
  | call (name : Option String)
  /-- Runs a procedure and gives its failure as a value. -/
  | rescue (name : Option String)
  | calls (names : List String)
  | describe
deriving DecidableEq

/-- A handler written down as data. -/
structure HandlerSpec where
  behaviour : Behaviour
  /-- How long it sleeps if the command does not say, in milliseconds. -/
  ms : Nat
  sleeps : Bool
deriving DecidableEq

namespace Behaviour

def field (command : Command) (name : String) : Value :=
  (command.get? name).getD .null

/-- The failure of a handler that looks for a procedure in vain. -/
def noProcedure (name : String) : Activity :=
  .settle (.error ⟨.handler, "no procedure " ++ name⟩)

def callNamed (programs : List Program) (name : String) (args : Value)
    (next : Outcome → Activity) : Activity :=
  match find? programs name with
  | some program => .call program.procedure args next
  | none => noProcedure name

/-- The name of the procedure that a command asks for, unless the handler has one of its own. -/
def procedureName (own : Option String) (command : Command) : String :=
  own.getD ((field command "procedure").string?.getD "")

/-- Runs procedures one after another, after others gave the values `done`. -/
def callAll (programs : List Program) (args : Value) (done : List Value) : List String → Activity
  | [] => .settle (.ok (.array done))
  | name :: rest =>
    callNamed programs name args fun outcome =>
      match outcome with
      | .ok value => callAll programs args (done ++ [value]) rest
      | .error failure => .settle (.error failure)

def rescued : Outcome → Outcome
  | .ok value => .ok value
  | .error failure => .ok (.object (Fields.ofList [("rescued", .string failure.text)]))

def description (command : Command) (seen : Handler.View) : Value :=
  let site := seen.site
  let registered :=
    match (field command "kind").string? with
    | some kind => seen.types.contains kind
    | none => false
  .object (Fields.ofList
    [("cid", .string site.run.text), ("depth", .count site.depth),
      ("stack", .array (site.stack.map Frame.toJson)),
      ("name", .ofString? site.config.name),
      ("fixed_cid", .ofString? (site.config.run.map RunId.text)),
      ("hooks", .count site.config.hooks.size), ("kinds", .strings seen.types),
      ("same", .bool true), ("has", .bool registered)])

/-- The activity of a behaviour whose own counter is `counter`. -/
def activity (programs : List Program) (counter : Nat) (behaviour : Behaviour) (command : Command)
    (seen : Handler.View) : Activity :=
  let args := field command "args"
  match behaviour with
  | echo => .settle (.ok (field command "value"))
  | payload => .settle (.ok (.object command.payload))
  | const value => .settle (.ok value)
  | fail failure => .settle (.error failure)
  | failMessage => .settle (.error ⟨.handler, (field command "reason").string?.getD "oops"⟩)
  | panic message => .panic message
  | .count => .draw counter fun number => .settle (.ok (Value.count number))
  | decode => .settle ((Effect.decode command).map fun effect => effect.toCommand.toJson)
  | call name => callNamed programs (procedureName name command) args .settle
  | rescue name =>
    callNamed programs (procedureName name command) args fun outcome => .settle (rescued outcome)
  | calls names => callAll programs args [] names
  | describe => .settle (.ok (description command seen))

def ofFields? (fields : Fields none) : Option Behaviour := do
  let text (key : String) : Option String := (fields.get? key).bind Value.string?
  match ← text "do" with
  | "echo" => pure echo
  | "payload" => pure payload
  | "const" => pure (const ((fields.get? "value").getD .null))
  | "fail" => pure (fail (← Failure.ofJson? (← fields.get? "failure")))
  | "failmsg" => pure failMessage
  | "panic" => pure (panic ((text "message").getD ""))
  | "count" => pure .count
  | "decode" => pure decode
  | "call" => pure (call (text "procedure"))
  | "rescue" => pure (rescue (text "procedure"))
  | "calls" => pure (calls (← (← fields.get? "procedures").strings?))
  | "context" => pure describe
  | _ => none

end Behaviour

namespace HandlerSpec

/-- How long a handler sleeps before it answers a command. -/
def sleepFor (spec : HandlerSpec) (command : Command) : Nat :=
  match (Behaviour.field command "ms").word? with
  | some ms => ms.toNat
  | none => spec.ms

def handler (spec : HandlerSpec) (programs : List Program) (counter : Nat) : Handler :=
  fun command seen =>
    let activity := spec.behaviour.activity programs counter command seen
    if spec.sleeps then .sleep (spec.sleepFor command) activity else activity

/-- Reads a specification; one that names a style, in the field `as`, never sleeps. -/
def ofJson? : Value → Option HandlerSpec
  | .object fields => do
    let ms := ((fields.get? "ms").bind Value.word?).getD 0
    let style := (fields.get? "as").bind Value.string?
    pure ⟨← Behaviour.ofFields? fields, ms.toNat, style.isNone⟩
  | _ => none

end HandlerSpec

/-- The handlers of specifications that are registered in order, each with a counter of its own. -/
def handlers (programs : List Program) (specs : List (String × HandlerSpec)) : Handlers :=
  specs.zipIdx.foldl
    (fun done (entry, counter) => done.insert entry.1 (entry.2.handler programs counter))
    .empty

/-- Whether each registration in order replaces an earlier one. -/
def replacements : (earlier types : List String) → List Bool
  | _, [] => []
  | earlier, type :: rest => earlier.contains type :: replacements (type :: earlier) rest

end Resumable.Scenario
