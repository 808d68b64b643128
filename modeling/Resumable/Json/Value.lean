import Resumable.Json.Number

/-!
# JSON values

A `Value` is a JSON document. The fields of an object are a `Fields` list whose keys ascend
strictly, by code point, so that two objects with the same fields are equal and no key occurs
twice; the index of `Fields` bounds its keys from below.
-/

namespace Resumable.Json

/-- `key` may come next in a list of fields whose last key is `bound`. -/
def Follows (bound : Option String) (key : String) : Prop :=
  ∀ last ∈ bound, last < key

namespace Follows

theorem none (key : String) : Follows none key := by
  simp [Follows]

theorem some_iff {last key : String} : Follows (some last) key ↔ last < key := by
  simp [Follows]

theorem trans {bound : Option String} {key next : String}
    (first : Follows bound key) (second : key < next) : Follows bound next :=
  fun last member => String.lt_trans (first last member) second

instance : {bound : Option String} → {key : String} → Decidable (Follows bound key)
  | .none, key => isTrue (none key)
  | .some _, _ => decidable_of_iff _ some_iff.symm

end Follows

mutual

/-- A JSON document. -/
inductive Value : Type
  | null
  | bool (value : Bool)
  | number (value : Number)
  | string (value : String)
  | array (elements : List Value)
  | object (fields : Fields none)

/-- Fields in strictly ascending order of their keys, all of them above `bound`. -/
inductive Fields : (bound : Option String) → Type
  | nil {bound : Option String} : Fields bound
  | cons {bound : Option String} (key : String) (follows : Follows bound key) (value : Value)
      (rest : Fields (some key)) : Fields bound

end

instance : Inhabited Value := ⟨.null⟩

instance {bound : Option String} : Inhabited (Fields bound) := ⟨.nil⟩

namespace Value

def emptyObject : Value :=
  .object .nil

def word (value : UInt64) : Value :=
  .number (.ofWord value)

/-- A count as a JSON number; counts are smaller than a word can hold. -/
def count (size : Nat) : Value :=
  .word (UInt64.ofNat size)

/-- A text as a JSON string, a missing one as `null`. -/
def ofString? : Option String → Value
  | some text => .string text
  | none => .null

def string? : Value → Option String
  | .string text => some text
  | _ => none

def bool? : Value → Option Bool
  | .bool value => some value
  | _ => none

def elements? : Value → Option (List Value)
  | .array elements => some elements
  | _ => none

def strings (texts : List String) : Value :=
  .array (texts.map .string)

def strings? (value : Value) : Option (List String) := do
  (← value.elements?).mapM Value.string?

def word? : Value → Option UInt64
  | .number value => value.toWord?
  | _ => none

def present? : Value → Option Value
  | .null => none
  | value => some value

def isNull : Value → Bool
  | .null => true
  | _ => false

/-- Whether the value is `null` or the empty object. -/
def isBlank : Value → Bool
  | .null => true
  | .object .nil => true
  | _ => false

/-- The name that a value gives: a JSON string, or the only key of an object whose value says
nothing more, as `silent` tells. -/
def name? (silent : Value → Bool) : Value → Option String
  | .string name => some name
  | .object (.cons name _ value .nil) => if silent value then some name else none
  | _ => none

theorem word?_word (value : UInt64) : (word value).word? = some value :=
  Number.toWord?_ofWord value

/-- Items that can be read back one by one can be read back together. -/
theorem mapM_map_of_reads {α : Type} {write : α → Value} {read? : Value → Option α}
    (reads : ∀ item, read? (write item) = some item) (items : List α) :
    (items.map write).mapM read? = some items := by
  have undoes : read? ∘ write = pure := funext reads
  rw [List.mapM_map, undoes, List.mapM_pure, List.map_id']
  rfl

theorem strings?_strings (texts : List String) : (strings texts).strings? = some texts := by
  have reads (text : String) : string? (.string text) = some text := rfl
  exact mapM_map_of_reads reads texts

end Value

end Resumable.Json
