import Resumable.Json.Equality

/-!
# Failures and outcomes

A `Failure` says which part of a run went wrong and how; an `Outcome` is the value a command or a
procedure settled with, or its failure. Failures have a wire form, an object of the two fields
`kind` and `message`. `Failure.ofJson?` also reads the pair of both in an array, and a kind that is
the only key of an object, with the value `null`. `Failure.ofRecordJson?` reads the failures in
records and accepts more; both read back what is written.
-/

namespace Resumable

open Json (Value Fields)

/-- Which part of a run went wrong. -/
inductive Failure.Kind
  /-- No handler is registered for a command. -/
  | lookup
  | handler
  | computation
  /-- A handler panicked, or a command never reported. -/
  | panicked
  | aborted
deriving DecidableEq, Repr

structure Failure where
  kind : Failure.Kind
  message : String
deriving DecidableEq

/-- How a command or a procedure settled. -/
abbrev Outcome := Except Failure Value

instance decidableEqExcept {ε α : Type} [DecidableEq ε] [DecidableEq α] :
    DecidableEq (Except ε α)
  | .ok left, .ok right => decidable_of_iff (left = right) ⟨congrArg _, Except.ok.inj⟩
  | .error left, .error right => decidable_of_iff (left = right) ⟨congrArg _, Except.error.inj⟩
  | .ok _, .error _ => isFalse nofun
  | .error _, .ok _ => isFalse nofun

namespace Failure

namespace Kind

/-- The kinds by their names on the wire, in the order of their positions. -/
def names : List (String × Kind) :=
  [("lookup", .lookup), ("handler", .handler), ("computation", .computation),
    ("panicked", .panicked), ("aborted", .aborted)]

def name : Kind → String
  | lookup => "lookup"
  | handler => "handler"
  | computation => "computation"
  | panicked => "panicked"
  | aborted => "aborted"

def ofName? (name : String) : Option Kind :=
  names.lookup name

/-- Reads a kind from its name or its position. -/
def ofNameOrPosition? : Value → Option Kind
  | .string name => ofName? name
  | value => do (names[(← value.word?).toNat]?).map Prod.snd

def label : Kind → String
  | lookup => "Lookup"
  | handler => "Handler"
  | computation => "Computation"
  | panicked => "Panicked"
  | aborted => "Aborted"

theorem ofName?_name (kind : Kind) : ofName? kind.name = some kind := by
  cases kind <;> decide

end Kind

def noHandler (type : String) : Failure :=
  ⟨.lookup, type⟩

def text (failure : Failure) : String :=
  match failure.kind with
  | .lookup => "no handler registered for command type `" ++ failure.message ++ "`"
  | .handler => "handler failed: " ++ failure.message
  | .computation => "computation failed: " ++ failure.message
  | .panicked => "handler panicked: " ++ failure.message
  | .aborted => "run aborted: " ++ failure.message

def toJson (failure : Failure) : Value :=
  .object (Fields.ofList
    [("kind", .string failure.kind.name), ("message", .string failure.message)])

/-- Reads the wire form of a failure on its own; fields other than the two are ignored. -/
def ofJson? : Value → Option Failure
  | .object fields => do
    let kind ← Kind.ofName? (← (← fields.get? "kind").name? Value.isNull)
    pure ⟨kind, ← (← fields.get? "message").string?⟩
  | .array [kind, message] => do
    pure ⟨← Kind.ofName? (← kind.string?), ← message.string?⟩
  | _ => none

/-- Reads the wire form of a failure in a record. A kind may also be the only key of an object with
an empty object as its value, and in a pair it may be given by its position. -/
def ofRecordJson? : Value → Option Failure
  | .object fields => do
    let kind ← Kind.ofName? (← (← fields.get? "kind").name? Value.isBlank)
    pure ⟨kind, ← (← fields.get? "message").string?⟩
  | .array [kind, message] => do
    pure ⟨← Kind.ofNameOrPosition? kind, ← message.string?⟩
  | _ => none

theorem ofJson?_toJson (failure : Failure) : ofJson? failure.toJson = some failure := by
  simp [toJson, ofJson?, Fields.ofList, Fields.get?_insert, Value.string?, Value.name?,
    Kind.ofName?_name]

theorem ofRecordJson?_toJson (failure : Failure) :
    ofRecordJson? failure.toJson = some failure := by
  simp [toJson, ofRecordJson?, Fields.ofList, Fields.get?_insert, Value.string?, Value.name?,
    Kind.ofName?_name]

end Failure

namespace Outcome

/-- The outcome as an object whose one field tells a value from a failure. -/
def toJson : Outcome → Value
  | .ok value => .object (Fields.ofList [("ok", value)])
  | .error failure => .object (Fields.ofList [("err", failure.toJson)])

/-- Reads an object with a field `ok` or a failure in the field `err`. -/
def ofJson? : Value → Option Outcome
  | .object fields =>
    match fields.get? "err" with
    | some failure => (Failure.ofJson? failure).map .error
    | none => (fields.get? "ok").map .ok
  | _ => none

end Outcome

end Resumable
