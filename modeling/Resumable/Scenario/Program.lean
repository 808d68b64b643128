import Resumable.Procedure
import Resumable.Scenario.Template

/-!
# Programs

A `Program` is a procedure written down as data: a list of actions that suspend, settle or fail,
with templates for what they say. `Program.procedure` gives it its meaning and `Program.ofJson?`
reads it.
-/

namespace Resumable.Scenario

open Json (Value Fields)

/-- What a program does about the failure of a suspension. -/
inductive Recovery
  /-- Goes on with the failure in words. -/
  | text
  | wire
  /-- Goes on as if nothing had been given. -/
  | skip
  /-- Fails with a failure of its own that quotes this one. -/
  | wrap
  | complete (template : Value)
  | rethrow
deriving DecidableEq

inductive Action
  /-- Suspends on what a template stands for. -/
  | yield (template : Value) (recovery : Recovery)
  | complete (template : Value)
  | fail (failure : Failure)
  /-- Completes with all that was given if a template stands for nothing or an empty array. -/
  | stopIfEmpty (template : Value)
deriving DecidableEq

/-- A procedure written down as data. -/
structure Program where
  name : String
  actions : List Action
deriving DecidableEq

namespace Program

/-- A computation of a program between two inputs. -/
structure State where
  scope : Scope
  rest : List Action
  /-- What the last suspension said about failures. -/
  recovery : Recovery
deriving DecidableEq

/-- Whether a value is nothing or an empty array. -/
def isNothing : Value → Bool
  | .null => true
  | .array [] => true
  | _ => false

/-- Takes actions until one suspends or settles. -/
def act (scope : Scope) (recovery : Recovery) : List Action → Step × State
  | [] => (.done scope.seenArray, ⟨scope, [], recovery⟩)
  | .yield template next :: rest =>
    match Suspension.ofJson (scope.expand template) with
    | .ok suspension => (.suspend suspension, ⟨scope, rest, next⟩)
    | .error error => (.failed ⟨.computation, error.message⟩, ⟨scope, rest, next⟩)
  | .complete template :: rest => (.done (scope.expand template), ⟨scope, rest, recovery⟩)
  | .fail failure :: rest => (.failed failure, ⟨scope, rest, recovery⟩)
  | .stopIfEmpty template :: rest =>
    if isNothing (scope.expand template) then (.done scope.seenArray, ⟨scope, rest, recovery⟩)
    else act scope recovery rest

namespace State

def proceed (state : State) : Step × State :=
  act state.scope state.recovery state.rest

def take (state : State) (value : Value) : Step × State :=
  { state with scope := { state.scope with seen := state.scope.seen ++ [value] } }.proceed

/-- Goes on after a failure, as the last suspension said. -/
def recover (state : State) (failure : Failure) : Step × State :=
  match state.recovery with
  | .text => state.take (.string failure.text)
  | .wire => state.take failure.toJson
  | .skip => state.proceed
  | .wrap => (.failed ⟨.computation, failure.text⟩, state)
  | .complete template => (.done (state.scope.expand template), state)
  | .rethrow => (.failed failure, state)

def move (state : State) : Input → Step × State
  | .start => state.proceed
  | .value given => state.take given
  | .throw failure => state.recover failure

end State

def procedure (program : Program) : Procedure where
  name := program.name
  State := State
  initial := fun args => ⟨⟨args, []⟩, program.actions, .rethrow⟩
  move := State.move

/-- Reads what an action says about failures. -/
def recoveryOf : Option Value → Recovery
  | some (.string "text") => .text
  | some (.string "wire") => .wire
  | some (.string "skip") => .skip
  | some (.string "wrap") => .wrap
  | some (.object fields) =>
    match fields.get? "return" with
    | some template => .complete template
    | none => .rethrow
  | _ => .rethrow

def actionOf? : Value → Option Action
  | .object fields =>
    match fields.get? "yield", fields.get? "return", fields.get? "throw" with
    | some template, _, _ => some (.yield template (recoveryOf (fields.get? "catch")))
    | none, some template, _ => some (.complete template)
    | none, none, some failure => (Failure.ofJson? failure).map .fail
    | none, none, none => (fields.get? "stop_if_empty").map .stopIfEmpty
  | _ => none

def ofJson? : Value → Option Program
  | .object fields => do
    let actions ← ((← fields.get? "do").elements?.getD []).mapM actionOf?
    pure ⟨((fields.get? "name").bind Value.string?).getD "", actions⟩
  | _ => none

end Program

/-- The program of a given name; of several the last. -/
def find? (programs : List Program) (name : String) : Option Program :=
  programs.reverse.find? fun program => program.name = name

end Resumable.Scenario
