import Resumable.Json.Fields

/-!
# Equality of JSON values

`Value.eqWith` compares two values with a given comparison of numbers. Equality itself is decided
with equal numbers, and `Value.strictEq` uses the comparison that keeps integers and binary64
numbers apart but gives zero no sign.
-/

namespace Resumable.Json

namespace Value

mutual

/-- Equality of values up to a comparison of their numbers. -/
def eqWith (same : Number → Number → Bool) : Value → Value → Bool
  | .null, .null => true
  | .bool left, .bool right => left == right
  | .number left, .number right => same left right
  | .string left, .string right => left == right
  | .array left, .array right => eqElementsWith same left right
  | .object left, .object right => eqFieldsWith same left right
  | _, _ => false

/-- Equality of arrays, position by position. -/
def eqElementsWith (same : Number → Number → Bool) : List Value → List Value → Bool
  | [], [] => true
  | left :: lefts, right :: rights => eqWith same left right && eqElementsWith same lefts rights
  | _, _ => false

/-- Equality of fields: the same keys with equal values. -/
def eqFieldsWith (same : Number → Number → Bool) {bound bound' : Option String} :
    Fields bound → Fields bound' → Bool
  | .nil, .nil => true
  | .cons key _ left lefts, .cons key' _ right rights =>
    key == key' && eqWith same left right && eqFieldsWith same lefts rights
  | _, _ => false

end

variable {same : Number → Number → Bool}

mutual

theorem eqWith_refl (refl : ∀ number, same number number = true) :
    ∀ value : Value, value.eqWith same value = true
  | .null => rfl
  | .bool _ => by simp [eqWith]
  | .number n => refl n
  | .string _ => by simp [eqWith]
  | .array elements => eqElementsWith_refl refl elements
  | .object fields => eqFieldsWith_refl refl fields

theorem eqElementsWith_refl (refl : ∀ number, same number number = true) :
    ∀ elements : List Value, eqElementsWith same elements elements = true
  | [] => rfl
  | value :: rest => by simp [eqElementsWith, eqWith_refl refl value, eqElementsWith_refl refl rest]

theorem eqFieldsWith_refl (refl : ∀ number, same number number = true) {bound : Option String} :
    ∀ fields : Fields bound, eqFieldsWith same fields fields = true
  | .nil => rfl
  | .cons _ _ value rest => by
    simp [eqFieldsWith, eqWith_refl refl value, eqFieldsWith_refl refl rest]

end

theorem length_of_eqElementsWith : ∀ {left right : List Value},
    eqElementsWith same left right = true → left.length = right.length
  | [], [], _ => rfl
  | [], _ :: _, equal => by simp [eqElementsWith] at equal
  | _ :: _, [], equal => by simp [eqElementsWith] at equal
  | _ :: lefts, _ :: rights, equal => by
    simp only [eqElementsWith, Bool.and_eq_true] at equal
    rw [List.length_cons, List.length_cons, length_of_eqElementsWith equal.2]

mutual

theorem eqWith_comm (comm : ∀ left right, same left right = same right left) :
    ∀ left right : Value, left.eqWith same right = right.eqWith same left
  | .null, right => by cases right <;> simp [eqWith]
  | .bool _, right => by cases right <;> simp [eqWith, Bool.beq_comm]
  | .number left, right => by cases right <;> simp [eqWith, comm left]
  | .string _, right => by cases right <;> simp [eqWith, Bool.beq_comm]
  | .array left, right => by cases right <;> simp [eqWith, eqElementsWith_comm comm left]
  | .object left, right => by cases right <;> simp [eqWith, eqFieldsWith_comm comm left]

theorem eqElementsWith_comm (comm : ∀ left right, same left right = same right left) :
    ∀ left right : List Value, eqElementsWith same left right = eqElementsWith same right left
  | [], right => by cases right <;> simp [eqElementsWith]
  | left :: lefts, right => by
    cases right <;> simp [eqElementsWith, eqWith_comm comm left, eqElementsWith_comm comm lefts]

theorem eqFieldsWith_comm (comm : ∀ left right, same left right = same right left)
    {bound bound' : Option String} : ∀ (left : Fields bound) (right : Fields bound'),
      eqFieldsWith same left right = eqFieldsWith same right left
  | .nil, right => by cases right <;> simp [eqFieldsWith]
  | .cons key _ left lefts, right => by
    cases right with
    | nil => simp [eqFieldsWith]
    | cons key' _ right rights =>
      simp [eqFieldsWith, eqWith_comm comm left, eqFieldsWith_comm comm lefts,
        Bool.beq_comm (a := key)]

end

mutual

theorem eq_of_eqWith (exact : ∀ left right, same left right = true → left = right) :
    ∀ left right : Value, left.eqWith same right = true → left = right
  | .null, right, h => by cases right <;> simp_all [eqWith]
  | .bool _, right, h => by cases right <;> simp_all [eqWith]
  | .number left, right, h => by
    cases right <;> simp [eqWith] at h
    rw [exact _ _ h]
  | .string _, right, h => by cases right <;> simp_all [eqWith]
  | .array left, right, h => by
    cases right <;> simp [eqWith] at h
    rw [eq_of_eqElementsWith exact _ _ h]
  | .object left, right, h => by
    cases right <;> simp [eqWith] at h
    rw [eq_of_eqFieldsWith exact _ _ h]

theorem eq_of_eqElementsWith (exact : ∀ left right, same left right = true → left = right) :
    ∀ left right : List Value, eqElementsWith same left right = true → left = right
  | [], right, h => by cases right <;> simp_all [eqElementsWith]
  | left :: lefts, right, h => by
    cases right <;> simp [eqElementsWith] at h
    rw [eq_of_eqWith exact _ _ h.1, eq_of_eqElementsWith exact _ _ h.2]

theorem eq_of_eqFieldsWith (exact : ∀ left right, same left right = true → left = right)
    {bound : Option String} :
    ∀ left right : Fields bound, eqFieldsWith same left right = true → left = right
  | .nil, right, h => by cases right <;> simp_all [eqFieldsWith]
  | .cons key _ left lefts, right, h => by
    cases right with
    | nil => simp [eqFieldsWith] at h
    | cons key' _ right rights =>
      simp only [eqFieldsWith, Bool.and_eq_true, beq_iff_eq] at h
      obtain ⟨⟨rfl, values⟩, rests⟩ := h
      rw [eq_of_eqWith exact _ _ values, eq_of_eqFieldsWith exact _ _ rests]

end

theorem eqWith_beq_iff {left right : Value} : left.eqWith (· == ·) right = true ↔ left = right :=
  ⟨eq_of_eqWith (fun _ _ => eq_of_beq) left right,
    fun h => h ▸ eqWith_refl (fun number => beq_self_eq_true number) left⟩

instance : DecidableEq Value := fun _ _ => decidable_of_iff _ eqWith_beq_iff

/-- Equality that keeps integers and binary64 numbers apart; zero has no sign. -/
def strictEq (left right : Value) : Bool :=
  left.eqWith Number.strictEq right

theorem strictEq_refl (value : Value) : value.strictEq value = true :=
  eqWith_refl Number.strictEq_refl value

theorem strictEq_comm (left right : Value) : left.strictEq right = right.strictEq left :=
  eqWith_comm Number.strictEq_comm left right

end Value

instance {bound : Option String} : DecidableEq (Fields bound) := fun left right =>
  decidable_of_iff (Value.eqFieldsWith (· == ·) left right = true)
    ⟨Value.eq_of_eqFieldsWith (fun _ _ => eq_of_beq) left right,
      fun h => h ▸ Value.eqFieldsWith_refl (fun number => beq_self_eq_true number) left⟩

end Resumable.Json
