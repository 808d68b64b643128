import Resumable.Procedure
import Resumable.Site

/-!
# Handlers

A `Handler` answers one type of command with an `Activity`: it may let time pass, draw the next
number of a counter, run further procedures and wait for them, and in the end settle or panic. An
activity runs its procedures one after another; a handler that starts several runs and waits for
them together is not among those described here. `Handlers` are kept by the type of command, in
ascending order.
-/

namespace Resumable

open Json (Value)

/-- What a handler does about one command. -/
inductive Activity : Type 1
  | settle (outcome : Outcome)
  /-- Panics. The message stands for whatever the panic carries. -/
  | panic (message : String)
  /-- Lets virtual milliseconds pass. -/
  | sleep (ms : Nat) (next : Activity)
  /-- Draws the next number of a counter. -/
  | draw (counter : Nat) (next : Nat → Activity)
  /-- Runs a procedure and waits for its outcome. -/
  | call (procedure : Procedure) (args : Value) (next : Outcome → Activity)

/-- What a handler can see of the run. -/
structure Handler.View where
  /-- The types of commands that have handlers. -/
  types : List String
  /-- The site of the invocation that issued the command. -/
  site : Site

/-- The answer to one type of command. -/
def Handler : Type 1 :=
  Command → Handler.View → Activity

structure Handlers : Type 1 where
  toList : List (String × Handler)
  ascending : toList.Pairwise fun left right => left.1 < right.1

namespace Handlers

def empty : Handlers :=
  ⟨[], .nil⟩

/-- The handlers of ascending types with one set. -/
def put (type : String) (handler : Handler) : List (String × Handler) → List (String × Handler)
  | [] => [(type, handler)]
  | entry :: rest =>
    if type < entry.1 then (type, handler) :: entry :: rest
    else if type = entry.1 then (type, handler) :: rest
    else entry :: put type handler rest

theorem fst_mem_put {type : String} {handler : Handler} {entry : String × Handler} :
    ∀ {entries : List (String × Handler)}, entry ∈ put type handler entries →
      entry.1 = type ∨ entry ∈ entries
  | [], member => by
    simp only [put, List.mem_singleton] at member
    exact .inl (by rw [member])
  | first :: rest, member => by
    rw [put] at member
    split at member
    · rcases List.mem_cons.1 member with rfl | member
      · exact .inl rfl
      · exact .inr member
    · split at member
      · rcases List.mem_cons.1 member with rfl | member
        · exact .inl rfl
        · exact .inr (List.mem_cons_of_mem _ member)
      · rcases List.mem_cons.1 member with rfl | member
        · exact .inr List.mem_cons_self
        · exact (fst_mem_put member).imp_right (List.mem_cons_of_mem _)

theorem put_ascending (type : String) (handler : Handler) :
    ∀ {entries : List (String × Handler)}, entries.Pairwise (fun left right => left.1 < right.1) →
      (put type handler entries).Pairwise fun left right => left.1 < right.1
  | [], _ => List.pairwise_singleton ..
  | first :: rest, ascending => by
    obtain ⟨above, tail⟩ := List.pairwise_cons.1 ascending
    rw [put]
    by_cases before : type < first.1
    · rw [if_pos before]
      refine List.pairwise_cons.2 ⟨?_, ascending⟩
      intro entry member
      rcases List.mem_cons.1 member with rfl | member
      · exact before
      · exact String.lt_trans before (above entry member)
    · rw [if_neg before]
      by_cases same : type = first.1
      · rw [if_pos same]
        exact List.pairwise_cons.2 ⟨fun entry member => same ▸ above entry member, tail⟩
      · rw [if_neg same]
        refine List.pairwise_cons.2 ⟨?_, put_ascending type handler tail⟩
        intro entry member
        rcases fst_mem_put member with named | member
        · rw [named]
          exact Std.lt_of_le_of_ne (String.not_lt.1 before) (Ne.symm same)
        · exact above entry member

def get? (handlers : Handlers) (type : String) : Option Handler :=
  handlers.toList.lookup type

theorem mem_of_get? {handlers : Handlers} {type : String} {handler : Handler}
    (found : handlers.get? type = some handler) : (type, handler) ∈ handlers.toList := by
  obtain ⟨before, after, listed, _⟩ := List.lookup_eq_some_iff.mp found
  rw [listed]
  exact List.mem_append_right _ List.mem_cons_self

/-- Sets the handler of a type, which replaces an earlier one. -/
def insert (handlers : Handlers) (type : String) (handler : Handler) : Handlers :=
  ⟨put type handler handlers.toList, put_ascending type handler handlers.ascending⟩

theorem lookup_put_self (type : String) (handler : Handler)
    (entries : List (String × Handler)) :
    (put type handler entries).lookup type = some handler := by
  induction entries with
  | nil => exact List.lookup_cons_self
  | cons entry rest ih =>
    unfold put
    by_cases before : type < entry.1
    · rw [if_pos before, List.lookup_cons_self]
    · rw [if_neg before]
      by_cases same : type = entry.1
      · rw [if_pos same, List.lookup_cons_self]
      · rw [if_neg same, List.lookup_cons, beq_false_of_ne same]
        exact ih

theorem lookup_put_of_ne {type other : String} (apart : other ≠ type) (handler : Handler)
    (entries : List (String × Handler)) :
    (put type handler entries).lookup other = entries.lookup other := by
  have skips (rest : List (String × Handler)) :
      ((type, handler) :: rest).lookup other = rest.lookup other := by
    rw [List.lookup_cons, beq_false_of_ne apart]
  induction entries with
  | nil => exact skips []
  | cons entry rest ih =>
    unfold put
    by_cases before : type < entry.1
    · rw [if_pos before, skips]
    · rw [if_neg before]
      by_cases same : type = entry.1
      · rw [if_pos same, skips, List.lookup_cons, beq_false_of_ne (same ▸ apart)]
      · rw [if_neg same, List.lookup_cons, List.lookup_cons, ih]

/-- A handler is registered for its type alone. -/
theorem get?_insert (handlers : Handlers) (type : String) (handler : Handler) (other : String) :
    (handlers.insert type handler).get? other =
      if other = type then some handler else handlers.get? other := by
  by_cases same : other = type
  · rw [if_pos same, same]
    exact lookup_put_self type handler handlers.toList
  · rw [if_neg same]
    exact lookup_put_of_ne same handler handlers.toList

def contains (handlers : Handlers) (type : String) : Bool :=
  (handlers.get? type).isSome

def types (handlers : Handlers) : List String :=
  handlers.toList.map Prod.fst

def size (handlers : Handlers) : Nat :=
  handlers.toList.length

def text (handlers : Handlers) : String :=
  "HandlerMap \x7b kinds: [" ++ ", ".intercalate (handlers.types.map Text.visible) ++ "] \x7d"

end Handlers

end Resumable
