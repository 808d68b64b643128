/-!
# Finite binary64 numbers

A finite binary64 number is a sign and a rank: the finite magnitudes, numbered from zero upwards in
increasing order. `Double.significand` and `Double.shift` read a rank as a magnitude in units of
`2 ^ -1074`, and `Double.nearestRank` rounds a quotient of natural numbers to the nearest magnitude,
a half going to the even neighbour; products and quotients of magnitudes are rounded with it.
-/

namespace Resumable.Json

/-- The quotient `num / den`, rounded to the nearest natural number, a half to the even one. -/
def roundHalfEven (num den : Nat) : Nat :=
  let quotient := num / den
  let twice := 2 * (num % den)
  if twice < den then quotient
  else if den < twice then quotient + 1
  else if quotient % 2 = 0 then quotient
  else quotient + 1

/-- A finite binary64 number: a sign, and the position of its magnitude among all of them. -/
structure Double where
  /-- Whether the number carries a minus sign; zero carries one too. -/
  negative : Bool
  /-- How many magnitudes are smaller. -/
  rank : Nat
  rank_lt : rank < 2047 <<< 52 := by decide
deriving DecidableEq

namespace Double

def zero (negative : Bool) : Double where
  negative := negative
  rank := 0

instance : Inhabited Double := ⟨zero false⟩

/-- The significand of the magnitude at `rank`. -/
def significand (rank : Nat) : Nat :=
  if rank < 1 <<< 52 then rank else 1 <<< 52 + rank % (1 <<< 52)

/-- The power of two that multiplies the significand at `rank`, in units of `2 ^ -1074`. -/
def shift (rank : Nat) : Nat :=
  rank >>> 52 - 1

/-- The magnitude at `rank`, in units of `2 ^ -1074`. -/
def scaled (rank : Nat) : Nat :=
  significand rank <<< shift rank

/-- The rank of the magnitude nearest to `num / den`; a half goes to the even rank. The result may
lie past the greatest finite magnitude. -/
def nearestRank (num den : Nat) : Nat :=
  let units := num <<< 1074
  let whole := units / den
  let excess := if whole < 1 <<< 53 then 0 else whole.log2 - 52
  excess <<< 52 + roundHalfEven units (den <<< excess)

/-- The rank of the product of two magnitudes, rounded to the nearest one. -/
def productRank (left right : Nat) : Nat :=
  nearestRank (scaled left * scaled right) (1 <<< 2148)

def quotientRank (left right : Nat) : Nat :=
  nearestRank (scaled left) (scaled right)

/-- The finite number with a given sign and rank, unless its magnitude is too great. -/
def ofRank? (negative : Bool) (rank : Nat) : Option Double :=
  if inRange : rank < 2047 <<< 52 then some ⟨negative, rank, inRange⟩ else none

/-- The finite number nearest to an integer; what lies past the greatest one becomes the greatest
one. -/
def ofInt (value : Int) : Double where
  negative := value < 0
  rank := min (nearestRank value.natAbs 1) (2047 <<< 52 - 1)
  rank_lt := by
    have := Nat.min_le_right (nearestRank value.natAbs 1) (2047 <<< 52 - 1)
    omega

/-- Numerical equality: zero has no sign. -/
def sameValue (left right : Double) : Bool :=
  left.rank == right.rank && (left.negative == right.negative || left.rank == 0)

theorem sameValue_refl (number : Double) : number.sameValue number = true := by
  simp [sameValue]

theorem sameValue_comm (left right : Double) : left.sameValue right = right.sameValue left := by
  by_cases h : left.rank = right.rank
  · simp [sameValue, h, Bool.beq_comm]
  · rw [sameValue, sameValue, beq_false_of_ne h, beq_false_of_ne (Ne.symm h)]
    simp

theorem sameValue_trans {first second third : Double}
    (left : first.sameValue second = true) (right : second.sameValue third = true) :
    first.sameValue third = true := by
  simp only [sameValue, Bool.and_eq_true, beq_iff_eq, Bool.or_eq_true] at *
  obtain ⟨rank, sign⟩ := left
  obtain ⟨rank', sign'⟩ := right
  refine ⟨rank.trans rank', ?_⟩
  rcases sign with sign | zero
  · rcases sign' with sign' | zero
    · exact .inl (sign.trans sign')
    · exact .inr (rank.trans zero)
  · exact .inr zero

end Double

end Resumable.Json
