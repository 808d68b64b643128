import Mathlib.Algebra.Group.Nat.Defs
import Resumable.Json.Double

/-! # Integers that binary64 holds

An integer whose magnitude is at most `2 ^ 53` is a binary64 number, so that no two
of them are rounded to one number (`Double.sameValue_ofInt_iff`).
-/

namespace Resumable.Json

theorem roundHalfEven_mul (quotient : Nat) {den : Nat} (pos : 0 < den) :
    roundHalfEven (quotient * den) den = quotient := by
  unfold roundHalfEven
  rw [Nat.mul_div_cancel quotient pos, Nat.mul_mod_left]
  exact if_pos pos

theorem log2_shiftLeft {n : Nat} (nonzero : n ≠ 0) (count : Nat) :
    (n <<< count).log2 = n.log2 + count := by
  have pos : 0 < 2 ^ count := Nat.two_pow_pos count
  rw [Nat.shiftLeft_eq, Nat.log2_eq_iff (Nat.mul_ne_zero nonzero (Nat.ne_of_gt pos)), Nat.pow_add,
    show n.log2 + count + 1 = n.log2 + 1 + count by omega, Nat.pow_add]
  exact ⟨Nat.mul_le_mul_right _ (Nat.log2_self_le nonzero),
    Nat.mul_lt_mul_of_pos_right Nat.lt_log2_self pos⟩

theorem shiftLeft_le {n count count' : Nat} (nonzero : n ≠ 0) (below : count ≤ count') :
    1 <<< count ≤ n <<< count' := by
  rw [Nat.shiftLeft_eq, Nat.shiftLeft_eq]
  exact Nat.mul_le_mul (Nat.pos_of_ne_zero nonzero) (Nat.pow_le_pow_right Nat.two_pos below)

/-- A small integer has a significand of 53 bits. -/
theorem exists_significand {n : Nat} (nonzero : n ≠ 0) (small : n ≤ 2 ^ 53) :
    ∃ significand, 2 ^ 52 ≤ significand ∧ significand < 2 ^ 53 ∧
      n * 2 ^ 52 = significand * 2 ^ n.log2 := by
  have lower := Nat.log2_self_le nonzero
  have upper : n < 2 ^ (n.log2 + 1) := Nat.lt_log2_self
  by_cases below : n.log2 ≤ 52
  · refine ⟨n * 2 ^ (52 - n.log2), ?_, ?_, ?_⟩
    · calc 2 ^ 52 = 2 ^ n.log2 * 2 ^ (52 - n.log2) := by
            rw [← Nat.pow_add, Nat.add_sub_cancel' below]
        _ ≤ n * 2 ^ (52 - n.log2) := Nat.mul_le_mul_right _ lower
    · calc n * 2 ^ (52 - n.log2) < 2 ^ (n.log2 + 1) * 2 ^ (52 - n.log2) :=
            Nat.mul_lt_mul_of_pos_right upper (Nat.two_pow_pos _)
        _ = 2 ^ 53 := by rw [← Nat.pow_add]; congr 1; omega
    · rw [Nat.mul_assoc, ← Nat.pow_add, Nat.sub_add_cancel below]
  · have top : 2 ^ 53 ≤ n := Nat.le_trans (Nat.pow_le_pow_right (by decide) (by omega)) lower
    obtain rfl : n = 2 ^ 53 := Nat.le_antisymm small top
    rw [Nat.log2_two_pow]
    exact ⟨2 ^ 52, Nat.le_refl _, by decide, Nat.mul_comm _ _⟩

namespace Double

/-- The rank of a small integer holds its significand and the place of its leading bit. -/
theorem nearestRank_of_le {n : Nat} (nonzero : n ≠ 0) (small : n ≤ 2 ^ 53) :
    ∃ significand, 2 ^ 52 ≤ significand ∧ significand < 2 ^ 53 ∧
      n * 2 ^ 52 = significand * 2 ^ n.log2 ∧
      nearestRank n 1 = (n.log2 + 1022) * 2 ^ 52 + significand := by
  obtain ⟨significand, lower, upper, exact_⟩ := exists_significand nonzero small
  refine ⟨significand, lower, upper, exact_, ?_⟩
  have large : ¬ n <<< 1074 < 1 <<< 53 := Nat.not_lt.mpr (shiftLeft_le nonzero (by omega))
  have units : n <<< 1074 = significand * (1 <<< (n.log2 + 1022)) := by
    have leading : n <<< 52 = significand <<< n.log2 := by
      rwa [Nat.shiftLeft_eq, Nat.shiftLeft_eq]
    rw [show 1074 = 52 + 1022 by rfl, Nat.shiftLeft_add, leading, ← Nat.shiftLeft_add,
      Nat.shiftLeft_eq significand, ← Nat.one_shiftLeft]
  have den : 0 < 1 <<< (n.log2 + 1022) := shiftLeft_le Nat.one_ne_zero (Nat.zero_le _)
  unfold nearestRank
  simp only [Nat.div_one, if_neg large, log2_shiftLeft nonzero]
  rw [show n.log2 + 1074 - 52 = n.log2 + 1022 by omega, units, roundHalfEven_mul _ den,
    Nat.shiftLeft_eq]

theorem nearestRank_zero : nearestRank 0 1 = 0 := by
  unfold nearestRank
  rw [Nat.zero_shiftLeft]
  rfl

/-- Different small integers have different ranks. -/
theorem eq_of_nearestRank_eq {m n : Nat} (small : m ≤ 2 ^ 53) (small' : n ≤ 2 ^ 53)
    (equal : nearestRank m 1 = nearestRank n 1) : m = n := by
  by_cases zero : m = 0
  · by_cases zero' : n = 0
    · rw [zero, zero']
    · obtain ⟨_, lower, _, _, rank⟩ := nearestRank_of_le zero' small'
      rw [zero, nearestRank_zero, rank] at equal
      omega
  · obtain ⟨significand, lower, upper, whole, rank⟩ := nearestRank_of_le zero small
    by_cases zero' : n = 0
    · rw [zero', nearestRank_zero, rank] at equal
      omega
    · obtain ⟨significand', lower', upper', whole', rank'⟩ := nearestRank_of_le zero' small'
      rw [rank, rank'] at equal
      obtain ⟨exponents, rfl⟩ : m.log2 = n.log2 ∧ significand = significand' := by omega
      rw [exponents, ← whole'] at whole
      exact Nat.eq_of_mul_eq_mul_right (Nat.two_pow_pos 52) whole

/-- A small integer lies in the finite range. -/
theorem rank_ofInt {value : Int} (small : value.natAbs ≤ 2 ^ 53) :
    (ofInt value).rank = nearestRank value.natAbs 1 := by
  apply Nat.min_eq_left
  by_cases zero : value.natAbs = 0
  · rw [zero, nearestRank_zero]
    exact Nat.zero_le _
  · obtain ⟨significand, _, upper, _, rank⟩ := nearestRank_of_le zero small
    have exponent : value.natAbs.log2 < 54 := by
      rw [Nat.log2_lt zero]
      omega
    rw [rank]
    omega

/-- **Small integers are told apart as binary64 numbers.** -/
theorem sameValue_ofInt_iff {m n : Int} (small : m.natAbs ≤ 2 ^ 53) (small' : n.natAbs ≤ 2 ^ 53) :
    (ofInt m).sameValue (ofInt n) = true ↔ m = n := by
  constructor
  · intro equal
    simp only [sameValue, Bool.and_eq_true, beq_iff_eq, Bool.or_eq_true] at equal
    obtain ⟨ranks, signs⟩ := equal
    rw [rank_ofInt small, rank_ofInt small'] at ranks
    have magnitudes := eq_of_nearestRank_eq small small' ranks
    rcases signs with signs | zero
    · have negative : m < 0 ↔ n < 0 := decide_eq_decide.mp signs
      omega
    · rw [rank_ofInt small, ← nearestRank_zero] at zero
      have none := eq_of_nearestRank_eq small (Nat.zero_le _) zero
      omega
  · rintro rfl
    exact sameValue_refl _

end Double

end Resumable.Json
