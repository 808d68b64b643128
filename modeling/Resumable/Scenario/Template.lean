import Resumable.Json.Equality

/-!
# Templates

A template is a JSON value in which certain texts stand for what a computation knows: its arguments
and the values it has been given so far. Expanding replaces such texts at any depth, except among
keys, and does not expand what it puts in.
-/

namespace Resumable.Scenario

open Json (Value Fields)

/-- What a template can refer to. -/
structure Scope where
  args : Value
  /-- The values given so far, the first one first. -/
  seen : List Value
deriving DecidableEq

namespace Scope

def seenArray (scope : Scope) : Value :=
  .array scope.seen

/-- The first element of the arguments, or `null`. -/
def first (scope : Scope) : Value :=
  match scope.args with
  | .array (value :: _) => value
  | _ => .null

/-- The elements of the arguments without the first. -/
def others (scope : Scope) : Value :=
  match scope.args with
  | .array (_ :: rest) => .array rest
  | _ => .array []

/-- What a text in a template stands for: itself, unless it is one of the names. -/
def resolve (scope : Scope) (text : String) : Value :=
  match text with
  | "$args" => scope.args
  | "$seen" => scope.seenArray
  | "$last" => scope.seen.getLast?.getD .null
  | "$count" => .count scope.seen.length
  | "$first" => scope.first
  | "$rest" => scope.others
  | plain => .string plain

mutual

/-- The value that a template stands for. -/
def expand (scope : Scope) : Value → Value
  | .string text => scope.resolve text
  | .array elements => .array (expandElements scope elements)
  | .object fields => .object (expandFields scope fields)
  | plain => plain

def expandElements (scope : Scope) : List Value → List Value
  | [] => []
  | value :: rest => expand scope value :: expandElements scope rest

def expandFields (scope : Scope) {bound : Option String} : Fields bound → Fields bound
  | .nil => .nil
  | .cons key follows value rest =>
    .cons key follows (expand scope value) (expandFields scope rest)

end

end Scope

end Resumable.Scenario
