import Resumable.Json.Decimal

/-!
# Numbers of a JSON document

A number is an integer of the 64-bit ranges, signed or unsigned, or a finite binary64 number. Two
comparisons are defined: `Number.strictEq` tells an integer from a binary64 number of the same
value, and `Number.sameValue` compares integers exactly and everything else as binary64 numbers.
-/

namespace Resumable.Json

/-- A number: an integer between `-2 ^ 63` and `2 ^ 64`, or a binary64 number. -/
inductive Number
  | int (value : Int) (inRange : -9223372036854775808 ≤ value ∧ value < 18446744073709551616)
  | double (value : Double)
deriving DecidableEq

namespace Number

instance : Inhabited Number := ⟨.int 0 (by decide)⟩

def ofWord (word : UInt64) : Number :=
  .int word.toNat ⟨by omega, by have := word.toNat_lt; omega⟩

/-- The number as an unsigned 64-bit word, if it is an integer of that range. -/
def toWord? : Number → Option UInt64
  | .int value _ => if 0 ≤ value then some (UInt64.ofNat value.toNat) else none
  | .double _ => none

def toDouble : Number → Double
  | .int value _ => Double.ofInt value
  | .double value => value

/-- Equality that keeps integers and binary64 numbers apart; zero has no sign. -/
def strictEq : Number → Number → Bool
  | .int left _, .int right _ => left == right
  | .double left, .double right => left.sameValue right
  | _, _ => false

/-- Integers are compared exactly; if either side is a binary64 number, both are rounded to
binary64 first. -/
def sameValue : Number → Number → Bool
  | .int left _, .int right _ => left == right
  | left, right => left.toDouble.sameValue right.toDouble

def text : Number → String
  | .int value _ => toString value
  | .double value => value.text

theorem toWord?_ofWord (word : UInt64) : (ofWord word).toWord? = some word := by
  simp [ofWord, toWord?]

theorem ofWord_of_toWord? {number : Number} {word : UInt64} (h : number.toWord? = some word) :
    number = ofWord word := by
  cases number with
  | double value => simp [toWord?] at h
  | int value inRange =>
    simp only [toWord?] at h
    split at h
    · rename_i nonneg
      obtain rfl := Option.some.inj h
      have : (UInt64.ofNat value.toNat).toNat = value.toNat := by
        rw [UInt64.toNat_ofNat']
        omega
      simp [ofWord, this, Int.toNat_of_nonneg nonneg]
    · simp at h

theorem strictEq_refl (number : Number) : number.strictEq number = true := by
  cases number <;> simp [strictEq, Double.sameValue_refl]

theorem strictEq_comm (left right : Number) : left.strictEq right = right.strictEq left := by
  cases left <;> cases right <;> simp [strictEq, Double.sameValue_comm, Bool.beq_comm]

theorem sameValue_comm (left right : Number) : left.sameValue right = right.sameValue left := by
  cases left <;> cases right <;> simp [sameValue, Double.sameValue_comm, Bool.beq_comm]

theorem sameValue_of_strictEq {left right : Number} (h : left.strictEq right = true) :
    left.sameValue right = true := by
  cases left <;> cases right <;> simp_all [strictEq, sameValue, toDouble]

theorem sameValue_refl (number : Number) : number.sameValue number = true :=
  sameValue_of_strictEq number.strictEq_refl

end Number

end Resumable.Json
