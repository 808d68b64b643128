import Resumable.Hook

/-!
# Recordings

A `Recording` is a collection of hooks some of which keep every record they hear, together with the
records they have kept.
-/

namespace Resumable

/-- Hooks some of which keep what they hear. -/
structure Recording where
  hooks : Hooks
  /-- The positions of the hooks that keep records. -/
  keepers : List Nat
  records : List Record

namespace Recording

def empty : Recording :=
  ⟨.empty, [], []⟩

def add (recording : Recording) (hook : Hook) : Recording :=
  { recording with hooks := recording.hooks.add hook }

/-- Registers a hook that keeps the records of all kinds. -/
def addKeeper (recording : Recording) : Recording :=
  { recording.add .recorder with keepers := recording.keepers ++ [recording.hooks.size] }

/-- What is kept of a record that was delivered: one copy for each hook that keeps it. -/
def copies (recording : Recording) (record : Record) (delivery : Delivery) : List Record :=
  List.replicate (delivery.heard.countP fun position => recording.keepers.contains position) record

def emit (recording : Recording) (record : Record) : Delivery × Recording :=
  let delivery := recording.hooks.deliver record
  (delivery, { recording with records := recording.records ++ recording.copies record delivery })

def ofKind (recording : Recording) (kind : EventKind) : List Record :=
  recording.records.filter fun record => record.kind = kind

end Recording

end Resumable
