import Resumable.Telemetry.Record

/-!
# Hooks

A `Hook` subscribes to some of the four kinds of events and replies to each record it hears. `Hooks`
are kept in the order of their registration, and a record is delivered in that order to those that
hear its kind: an error is only noted as a warning, and a panic ends the delivery.
-/

namespace Resumable

inductive Hook.Error
  | failed (message : String)
  | other (message : String)
deriving DecidableEq

namespace Hook.Error

def text : Hook.Error → String
  | failed message => "hook failed: " ++ message
  | other message => message

end Hook.Error

inductive Hook.Reply
  | heard
  | error (error : Hook.Error)
  | panic (message : String)
deriving DecidableEq

/-- An observer of records. -/
structure Hook where
  /-- The kinds of events whose records it hears. -/
  kinds : List EventKind
  reply : Record → Hook.Reply

namespace Hook

def hears (hook : Hook) (kind : EventKind) : Bool :=
  hook.kinds.contains kind

/-- A hook on one kind of events that never complains. -/
def silent (kind : EventKind) : Hook :=
  ⟨[kind], fun _ => .heard⟩

/-- A hook on all kinds of events that never complains. -/
def recorder : Hook :=
  ⟨EventKind.all, fun _ => .heard⟩

end Hook

/-- What became of one record. -/
structure Delivery where
  /-- The positions of the hooks that heard it, in order. -/
  heard : List Nat
  /-- The errors they reported, in order. -/
  warnings : List Hook.Error
  /-- The message of the panic that ended the delivery. -/
  panic : Option String
deriving DecidableEq

namespace Delivery

def none : Delivery :=
  ⟨[], [], .none⟩

end Delivery

/-- Hooks in the order of their registration. -/
structure Hooks where
  toList : List Hook

namespace Hooks

def empty : Hooks :=
  ⟨[]⟩

def add (hooks : Hooks) (hook : Hook) : Hooks :=
  ⟨hooks.toList ++ [hook]⟩

def size (hooks : Hooks) : Nat :=
  hooks.toList.length

def hears (hooks : Hooks) (kind : EventKind) : Bool :=
  hooks.toList.any fun hook => hook.hears kind

/-- Delivers a record to hooks of which the first has position `position`. -/
def deliverFrom (record : Record) : (position : Nat) → List Hook → Delivery
  | _, [] => .none
  | position, hook :: rest =>
    if hook.hears record.kind then
      match hook.reply record with
      | .panic message => ⟨[position], [], some message⟩
      | .heard =>
        let others := deliverFrom record (position + 1) rest
        { others with heard := position :: others.heard }
      | .error error =>
        let others := deliverFrom record (position + 1) rest
        { others with heard := position :: others.heard, warnings := error :: others.warnings }
    else deliverFrom record (position + 1) rest

/-- Delivers a record to the hooks that hear it. -/
def deliver (hooks : Hooks) (record : Record) : Delivery :=
  deliverFrom record 0 hooks.toList

def text (hooks : Hooks) : String :=
  "HookRegistry \x7b hooks: " ++ toString hooks.size ++ " \x7d"

end Hooks

end Resumable
