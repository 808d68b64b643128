import Mathlib.Data.List.Forall2
import Mathlib.Data.String.Basic
import Mathlib.Tactic.ByContra
import Resumable.Json.Difference
import Resumable.Proofs.Json.Rounding

/-! # Values that are alike

Two integers are compared exactly, an integer and a binary64 number as binary64
numbers. Being alike is therefore reflexive and symmetric, but two different integers
that are rounded to one binary64 number are both alike to it
(`Value.not_alike_of_alike`). Such a clash is all that transitivity can fail by, and
one of its integers lies beyond `2 ^ 53` (`Value.alike_up_to_clashes`).

Equality up to a comparison of numbers is composed position by position
(`Value.eqWith_comp`), and between values of one shape it is the equality of the
numbers at every location (`Value.eqWith_of_numbers`).
-/

namespace Resumable.Json

namespace Number

variable {first second third : Number}

/-- Numbers of the same value are rounded to the same binary64 number. -/
theorem sameValue_toDouble (same : first.sameValue second = true) :
    first.toDouble.sameValue second.toDouble = true := by
  cases first with
  | double => exact same
  | int value =>
      cases second with
      | double => exact same
      | int value' =>
          obtain rfl : value = value' := eq_of_beq same
          exact Double.sameValue_refl _

/-- A chain of two steps leads to the same value unless it joins two different integers. -/
theorem sameValue_trans_iff (left : first.sameValue second = true)
    (right : second.sameValue third = true) :
    first.sameValue third = true ↔
      ∀ m inRange n inRange', first = .int m inRange → third = .int n inRange' → m = n := by
  have rounded := Double.sameValue_trans (sameValue_toDouble left) (sameValue_toDouble right)
  cases first with
  | double => exact iff_of_true rounded fun _ _ _ _ isInt _ => nomatch isInt
  | int m inRange =>
      cases third with
      | double => exact iff_of_true rounded fun _ _ _ _ _ isInt => nomatch isInt
      | int n inRange' =>
          constructor
          · rintro same _ _ _ _ ⟨⟩ ⟨⟩
            exact eq_of_beq same
          · intro equal
            exact beq_iff_eq.mpr (equal m inRange n inRange' rfl rfl)

/-- Different integers are joined only by a binary64 number that both are rounded to, and one of
them has more than 53 bits. -/
theorem exists_double_of_ne {m n : Int}
    {inRange : -9223372036854775808 ≤ m ∧ m < 18446744073709551616}
    {inRange' : -9223372036854775808 ≤ n ∧ n < 18446744073709551616}
    (left : sameValue (.int m inRange) second = true)
    (right : second.sameValue (.int n inRange') = true) (differ : m ≠ n) :
    ∃ between, second = .double between ∧ (Double.ofInt m).sameValue between = true ∧
      (Double.ofInt n).sameValue between = true ∧ (2 ^ 53 < m.natAbs ∨ 2 ^ 53 < n.natAbs) := by
  cases second with
  | int middle =>
      have first : m = middle := eq_of_beq left
      have last : middle = n := eq_of_beq right
      exact absurd (first.trans last) differ
  | double between =>
      refine ⟨between, rfl, left, (Double.sameValue_comm _ _).trans right, ?_⟩
      by_contra small
      rw [not_or, Nat.not_lt, Nat.not_lt] at small
      apply differ
      rw [← Double.sameValue_ofInt_iff small.1 small.2]
      exact Double.sameValue_trans left right

end Number

namespace Value

variable {same same' same'' : Number → Number → Bool}

mutual

theorem eqWith_comp (comp : ∀ first second third, same first second = true →
      same' second third = true → same'' first third = true) :
    ∀ first second third : Value, first.eqWith same second = true →
      second.eqWith same' third = true → first.eqWith same'' third = true
  | .null, second, third, left, right => by
      cases second <;> simp only [eqWith, Bool.false_eq_true] at left
      cases third <;> simp only [eqWith, Bool.false_eq_true] at right ⊢
  | .bool _, second, third, left, right => by
      cases second <;> simp only [eqWith, Bool.false_eq_true, beq_iff_eq] at left
      cases third <;> simp only [eqWith, Bool.false_eq_true, beq_iff_eq] at right ⊢
      exact left.trans right
  | .number first, second, third, left, right => by
      cases second <;> simp only [eqWith, Bool.false_eq_true] at left
      cases third <;> simp only [eqWith, Bool.false_eq_true] at right ⊢
      exact comp _ _ _ left right
  | .string _, second, third, left, right => by
      cases second <;> simp only [eqWith, Bool.false_eq_true, beq_iff_eq] at left
      cases third <;> simp only [eqWith, Bool.false_eq_true, beq_iff_eq] at right ⊢
      exact left.trans right
  | .array first, second, third, left, right => by
      cases second <;> simp only [eqWith, Bool.false_eq_true] at left
      cases third <;> simp only [eqWith, Bool.false_eq_true] at right ⊢
      exact eqElementsWith_comp comp _ _ _ left right
  | .object first, second, third, left, right => by
      cases second <;> simp only [eqWith, Bool.false_eq_true] at left
      cases third <;> simp only [eqWith, Bool.false_eq_true] at right ⊢
      exact eqFieldsWith_comp comp _ _ _ left right
termination_by structural first => first

theorem eqElementsWith_comp (comp : ∀ first second third, same first second = true →
      same' second third = true → same'' first third = true) :
    ∀ first second third : List Value, eqElementsWith same first second = true →
      eqElementsWith same' second third = true → eqElementsWith same'' first third = true
  | [], second, third, left, right => by
      cases second <;> simp only [eqElementsWith, Bool.false_eq_true] at left
      cases third <;> simp only [eqElementsWith, Bool.false_eq_true] at right ⊢
  | first :: firsts, second, third, left, right => by
      cases second <;> simp only [eqElementsWith, Bool.false_eq_true, Bool.and_eq_true] at left
      cases third <;> simp only [eqElementsWith, Bool.false_eq_true, Bool.and_eq_true] at right ⊢
      exact ⟨eqWith_comp comp _ _ _ left.1 right.1, eqElementsWith_comp comp _ _ _ left.2 right.2⟩
termination_by structural first => first

theorem eqFieldsWith_comp (comp : ∀ first second third, same first second = true →
      same' second third = true → same'' first third = true)
    {bound bound' bound'' : Option String} :
    ∀ (first : Fields bound) (second : Fields bound') (third : Fields bound''),
      eqFieldsWith same first second = true →
      eqFieldsWith same' second third = true → eqFieldsWith same'' first third = true
  | .nil, second, third, left, right => by
      cases second <;> simp only [eqFieldsWith, Bool.false_eq_true] at left
      cases third <;> simp only [eqFieldsWith, Bool.false_eq_true] at right ⊢
  | .cons key _ first firsts, second, third, left, right => by
      cases second <;>
        simp only [eqFieldsWith, Bool.false_eq_true, Bool.and_eq_true, beq_iff_eq] at left
      cases third <;>
        simp only [eqFieldsWith, Bool.false_eq_true, Bool.and_eq_true, beq_iff_eq] at right ⊢
      exact ⟨⟨left.1.1.trans right.1.1, eqWith_comp comp _ _ _ left.1.2 right.1.2⟩,
        eqFieldsWith_comp comp _ _ _ left.2 right.2⟩
termination_by structural first => first

end

section Locations

variable {left right part : Value}

/-- Equal values, or none on either side. -/
abbrev BothEqual (same : Number → Number → Bool) : Option Value → Option Value → Prop :=
  Option.Rel fun left right => left.eqWith same right = true

theorem bothEqual_getElem? {lefts rights : List Value}
    (equal : eqElementsWith same lefts rights = true) (i : Nat) :
    BothEqual same lefts[i]? rights[i]? := by
  induction lefts generalizing rights i with
  | nil =>
      cases rights with
      | nil => exact .none
      | cons first' rest' => simp [eqElementsWith] at equal
  | cons first rest ih =>
      cases rights with
      | nil => simp [eqElementsWith] at equal
      | cons first' rest' =>
          obtain ⟨firsts, rests⟩ := Bool.and_eq_true_iff.mp equal
          cases i with
          | zero => exact .some firsts
          | succ i => exact ih rests i

theorem bothEqual_get? {key : String} : ∀ {bound bound' : Option String}
    {lefts : Fields bound} {rights : Fields bound'}, eqFieldsWith same lefts rights = true →
    BothEqual same (lefts.get? key) (rights.get? key)
  | _, _, .nil, .nil, _ => .none
  | _, _, .nil, .cons first' above' value' rest', equal => by simp [eqFieldsWith] at equal
  | _, _, .cons first above value rest, .nil, equal => by simp [eqFieldsWith] at equal
  | _, _, .cons first above value rest, .cons first' above' value' rest', equal => by
      simp only [eqFieldsWith, Bool.and_eq_true, beq_iff_eq] at equal
      obtain ⟨⟨rfl, values⟩, rests⟩ := equal
      rw [Fields.get?_cons, Fields.get?_cons]
      by_cases here : key = first
      · rw [if_pos here, if_pos here]
        exact .some values
      · rw [if_neg here, if_neg here]
        exact bothEqual_get? rests

theorem eqFieldsWith_of_get? : ∀ {bound bound' : Option String}
    {lefts : Fields bound} {rights : Fields bound'},
    (∀ key, BothEqual same (lefts.get? key) (rights.get? key)) →
    eqFieldsWith same lefts rights = true
  | _, _, .nil, .nil, _ => rfl
  | _, _, .nil, .cons key _ _ _, equal => by
      have first := equal key
      rw [Fields.get?_cons_self] at first
      cases first
  | _, _, .cons key _ _ _, .nil, equal => by
      have first := equal key
      rw [Fields.get?_cons_self] at first
      cases first
  | _, _, .cons key above left lefts, .cons key' above' right rights, equal => by
      rcases lt_trichotomy key key' with before | rfl | after
      · have first := equal key
        rw [Fields.get?_cons_self, Fields.get?_cons_of_lt before] at first
        cases first
      · have first := equal key
        rw [Fields.get?_cons_self, Fields.get?_cons_self] at first
        cases first with
        | some values =>
            have rests : eqFieldsWith same lefts rights = true := by
              apply eqFieldsWith_of_get?
              intro later
              by_cases here : later = key
              · rw [here, lefts.get?_rest, rights.get?_rest]
                exact .none
              · have others := equal later
                rwa [Fields.get?_cons, if_neg here, Fields.get?_cons, if_neg here] at others
            simp only [eqFieldsWith, beq_self_eq_true, values, rests, Bool.and_self]
      · have first := equal key'
        rw [Fields.get?_cons_of_lt after, Fields.get?_cons_self] at first
        cases first

/-- Fields are equal if each key has equal values on both sides or none. -/
theorem eqFieldsWith_iff_get? {bound bound' : Option String} {lefts : Fields bound}
    {rights : Fields bound'} : eqFieldsWith same lefts rights = true ↔
      ∀ key, BothEqual same (lefts.get? key) (rights.get? key) :=
  ⟨fun equal _ => bothEqual_get? equal, eqFieldsWith_of_get?⟩

theorem eqElementsWith_iff_forall₂ {lefts rights : List Value} :
    eqElementsWith same lefts rights = true ↔
      List.Forall₂ (fun left right => left.eqWith same right = true) lefts rights := by
  induction lefts generalizing rights with
  | nil => cases rights <;> simp [eqElementsWith]
  | cons left lefts ih =>
      cases rights with
      | nil => simp [eqElementsWith]
      | cons right rights => rw [eqElementsWith, Bool.and_eq_true, ih, List.forall₂_cons]

theorem bothEqual_step? (equal : left.eqWith same right = true) (segment : Segment) :
    BothEqual same (left.step? segment) (right.step? segment) := by
  cases left with
  | array lefts =>
      cases right <;> simp only [eqWith, Bool.false_eq_true] at equal
      cases segment with
      | key name => exact .none
      | index position => exact bothEqual_getElem? equal position
  | object lefts =>
      cases right <;> simp only [eqWith, Bool.false_eq_true] at equal
      cases segment with
      | key name => exact bothEqual_get? equal
      | index position => exact .none
  | null =>
      cases right <;> simp only [eqWith, Bool.false_eq_true] at equal
      exact .none
  | bool value =>
      cases right <;> simp only [eqWith, Bool.false_eq_true] at equal
      exact .none
  | number value =>
      cases right <;> simp only [eqWith, Bool.false_eq_true] at equal
      exact .none
  | string value =>
      cases right <;> simp only [eqWith, Bool.false_eq_true] at equal
      exact .none

theorem BothEqual.bind {part part' : Option Value} {inner : Value → Option Value}
    (equal : BothEqual same part part') (each : ∀ left right : Value,
      left.eqWith same right = true → BothEqual same (inner left) (inner right)) :
    BothEqual same (part.bind inner) (part'.bind inner) := by
  cases equal with
  | none => exact .none
  | some parts => exact each _ _ parts

/-- At any location of equal values stand equal values, or none. -/
theorem bothEqual_at? (equal : left.eqWith same right = true) (location : Location) :
    BothEqual same (left.at? location) (right.at? location) := by
  induction location generalizing left right with
  | nil => exact .some equal
  | cons segment rest ih =>
      apply (bothEqual_step? equal segment).bind
      intro left right parts
      exact ih parts

/-- A number stands where an equal value has a number. -/
theorem exists_number_of_eqWith (equal : left.eqWith same right = true) {location : Location}
    {number : Number} (found : left.at? location = some (.number number)) :
    ∃ number', right.at? location = some (.number number') ∧ same number number' = true := by
  have both := bothEqual_at? equal location
  rw [found] at both
  cases there : right.at? location with
  | none =>
      rw [there] at both
      cases both
  | some part =>
      rw [there] at both
      cases both with
      | some parts =>
          cases part <;> simp only [eqWith, Bool.false_eq_true] at parts
          exact ⟨_, rfl, parts⟩

mutual

theorem eqWith_of_numbers : ∀ left right : Value, left.eqWith (fun _ _ => true) right = true →
    (∀ location m n, left.at? location = some (.number m) →
      right.at? location = some (.number n) → same m n = true) →
    left.eqWith same right = true
  | .null, right, shape, _ => by
      cases right <;> simp only [eqWith, Bool.false_eq_true] at shape ⊢
  | .bool _, right, shape, _ => by
      cases right <;> simp only [eqWith, Bool.false_eq_true] at shape ⊢
      exact shape
  | .number m, right, shape, numbers => by
      cases right <;> simp only [eqWith, Bool.false_eq_true] at shape ⊢
      exact numbers [] _ _ rfl rfl
  | .string _, right, shape, _ => by
      cases right <;> simp only [eqWith, Bool.false_eq_true] at shape ⊢
      exact shape
  | .array lefts, right, shape, numbers => by
      cases right <;> simp only [eqWith, Bool.false_eq_true] at shape ⊢
      apply eqElementsWith_of_numbers lefts _ shape
      intro i location m n found found'
      exact numbers (.index i :: location) m n found found'
  | .object lefts, right, shape, numbers => by
      cases right <;> simp only [eqWith, Bool.false_eq_true] at shape ⊢
      apply eqFieldsWith_of_numbers lefts _ shape
      intro key location m n found found'
      exact numbers (.key key :: location) m n found found'
termination_by structural left => left

theorem eqElementsWith_of_numbers : ∀ lefts rights : List Value,
    eqElementsWith (fun _ _ => true) lefts rights = true →
    (∀ (i : Nat) (location : Location) (m n : Number),
      (lefts[i]?.bind fun part => part.at? location) = some (.number m) →
      (rights[i]?.bind fun part => part.at? location) = some (.number n) → same m n = true) →
    eqElementsWith same lefts rights = true
  | [], rights, shape, _ => by
      cases rights <;> simp only [eqElementsWith, Bool.false_eq_true] at shape ⊢
  | left :: lefts, rights, shape, numbers => by
      cases rights with
      | nil => simp [eqElementsWith] at shape
      | cons right rights =>
          obtain ⟨first, others⟩ := Bool.and_eq_true_iff.mp shape
          refine Bool.and_eq_true_iff.mpr ⟨?_, ?_⟩
          · exact eqWith_of_numbers left right first fun location => numbers 0 location
          · exact eqElementsWith_of_numbers lefts rights others fun i => numbers (i + 1)
termination_by structural lefts => lefts

theorem eqFieldsWith_of_numbers {bound bound' : Option String} :
    ∀ (lefts : Fields bound) (rights : Fields bound'),
    eqFieldsWith (fun _ _ => true) lefts rights = true →
    (∀ (key : String) (location : Location) (m n : Number),
      ((lefts.get? key).bind fun part => part.at? location) = some (.number m) →
      ((rights.get? key).bind fun part => part.at? location) = some (.number n) →
        same m n = true) →
    eqFieldsWith same lefts rights = true
  | .nil, rights, shape, _ => by
      cases rights <;> simp only [eqFieldsWith, Bool.false_eq_true] at shape ⊢
  | .cons key above left lefts, rights, shape, numbers => by
      cases rights with
      | nil => simp [eqFieldsWith] at shape
      | cons key' above' right rights =>
          simp only [eqFieldsWith, Bool.and_eq_true, beq_iff_eq] at shape ⊢
          obtain ⟨⟨rfl, first⟩, others⟩ := shape
          refine ⟨⟨rfl, ?_⟩, ?_⟩
          · apply eqWith_of_numbers left right first
            intro location m n found found'
            apply numbers key location m n
            · rwa [Fields.get?_cons_self]
            · rwa [Fields.get?_cons_self]
          · apply eqFieldsWith_of_numbers lefts rights others
            intro later location m n found found'
            -- All later keys lie above `key`, so that it hides none of their values.
            have after : later ≠ key := by
              rintro rfl
              rw [lefts.get?_rest] at found
              cases found
            apply numbers later location m n
            · rwa [Fields.get?_cons, if_neg after]
            · rwa [Fields.get?_cons, if_neg after]
termination_by structural lefts => lefts

end

end Locations

/-- The value holds an integer at a location. -/
def HasInteger (value : Value) (location : Location) (integer : Int) : Prop :=
  ∃ inRange, value.at? location = some (.number (.int integer inRange))

/-- The values hold two different integers at one location. -/
def ClashAt (left right : Value) (location : Location) (m n : Int) : Prop :=
  left.HasInteger location m ∧ right.HasInteger location n ∧ m ≠ n

section Chains

variable {first second third : Value}

/-- Where both ends of a chain hold a number, so does the value between them. -/
theorem exists_number_between (left : first.alike second = true)
    (right : second.alike third = true) {location : Location} {m n : Number}
    (found : first.at? location = some (.number m))
    (found' : third.at? location = some (.number n)) :
    ∃ between, second.at? location = some (.number between) ∧
      m.sameValue between = true ∧ between.sameValue n = true := by
  obtain ⟨between, middle, same⟩ := exists_number_of_eqWith (alike_iff.mp left) found
  obtain ⟨last, found, same'⟩ := exists_number_of_eqWith (alike_iff.mp right) middle
  cases found.symm.trans found'
  exact ⟨between, middle, same, same'⟩

/-- A chain of two steps ends at a value that is alike unless the two ends clash. -/
theorem alike_trans_iff (left : first.alike second = true) (right : second.alike third = true) :
    first.alike third = true ↔ ¬ ∃ location m n, first.ClashAt third location m n := by
  constructor
  · rintro alike ⟨location, m, n, ⟨inRange, found⟩, ⟨inRange', found'⟩, differ⟩
    obtain ⟨number, there, same⟩ := exists_number_of_eqWith (alike_iff.mp alike) found
    cases there.symm.trans found'
    exact differ (eq_of_beq same)
  · intro clear
    -- Both steps keep everything but the numbers, and a number is kept unless it clashes.
    have shape : first.eqWith (fun _ _ => true) third = true :=
      eqWith_comp (fun _ _ _ _ _ => rfl) _ _ _ (alike_iff.mp left) (alike_iff.mp right)
    rw [alike_iff]
    apply eqWith_of_numbers first third shape
    intro location p q found found'
    obtain ⟨between, _, same, same'⟩ := exists_number_between left right found found'
    rw [Number.sameValue_trans_iff same same']
    rintro m inRange n inRange' rfl rfl
    by_contra differ
    exact clear ⟨location, m, n, ⟨inRange, found⟩, ⟨inRange', found'⟩, differ⟩

/-- Where the ends of a chain clash, the value between them holds a binary64 number that both
integers are rounded to. -/
theorem exists_double_of_clashAt (left : first.alike second = true)
    (right : second.alike third = true) {location : Location} {m n : Int}
    (clash : first.ClashAt third location m n) :
    ∃ between, second.at? location = some (.number (.double between)) ∧
      (Double.ofInt m).sameValue between = true ∧ (Double.ofInt n).sameValue between = true ∧
      (2 ^ 53 < m.natAbs ∨ 2 ^ 53 < n.natAbs) := by
  obtain ⟨⟨inRange, found⟩, ⟨inRange', found'⟩, differ⟩ := clash
  obtain ⟨number, middle, same, same'⟩ := exists_number_between left right found found'
  obtain ⟨between, rfl, rounded⟩ := Number.exists_double_of_ne same same' differ
  exact ⟨between, middle, rounded⟩

end Chains

/-- **Likeness is an equivalence up to clashes of great integers.** It is reflexive and symmetric.
A chain of two steps ends at a value that is alike exactly if its ends hold no two different
integers at one location; where they do, the value between them holds a binary64 number that both
integers are rounded to, and one of the integers lies beyond `2 ^ 53`. Values whose integers all
lie within `2 ^ 53` are therefore joined without exception. -/
theorem alike_up_to_clashes :
    (∀ value : Value, value.alike value = true) ∧
    (∀ left right : Value, left.alike right = true → right.alike left = true) ∧
    ∀ first second third : Value, first.alike second = true → second.alike third = true →
      (first.alike third = true ↔ ¬ ∃ location m n, first.ClashAt third location m n) ∧
      (∀ location m n, first.ClashAt third location m n →
        ∃ between, second.at? location = some (.number (.double between)) ∧
          (Double.ofInt m).sameValue between = true ∧ (Double.ofInt n).sameValue between = true ∧
          (2 ^ 53 < m.natAbs ∨ 2 ^ 53 < n.natAbs)) ∧
      ((∀ location m, first.HasInteger location m → m.natAbs ≤ 2 ^ 53) →
        (∀ location n, third.HasInteger location n → n.natAbs ≤ 2 ^ 53) →
        first.alike third = true) := by
  refine ⟨?_, ?_, ?_⟩
  · intro value
    exact alike_iff.mpr (eqWith_refl Number.sameValue_refl value)
  · intro left right alike
    rw [alike_iff] at alike ⊢
    rwa [eqWith_comm Number.sameValue_comm]
  · intro first second third left right
    refine ⟨alike_trans_iff left right, ?_, ?_⟩
    · intro location m n clash
      exact exists_double_of_clashAt left right clash
    · intro small small'
      rw [alike_trans_iff left right]
      intro ⟨location, m, n, clash⟩
      obtain ⟨_, _, _, _, great⟩ := exists_double_of_clashAt left right clash
      have within := small location m clash.1
      have within' := small' location n clash.2.1
      omega

/-- The two integers next to `2 ^ 53` clash in an array, and small integers do not. -/
theorem alike_up_to_clashes_beside_two_pow :
    let first : Value := .array [.null, .number (.int 9007199254740993 (by decide))]
    let second : Value := .array [.null, .number (.double (Double.ofInt 9007199254740992))]
    let third : Value := .array [.null, .number (.int 9007199254740992 (by decide))]
    let three : Value := .number (.int 3 (by decide))
    let rounded : Value := .number (.double (Double.ofInt 3))
    let between := Double.ofInt 9007199254740992
    first.alike second = true ∧ second.alike third = true ∧
      first.ClashAt third [.index 1] 9007199254740993 9007199254740992 ∧
      first.alike third = false ∧
      second.at? [.index 1] = some (.number (.double between)) ∧
      (Double.ofInt 9007199254740993).sameValue between = true ∧
      three.alike rounded = true ∧ rounded.alike three = true ∧
      (∀ location m, three.HasInteger location m → m.natAbs ≤ 2 ^ 53) ∧
      three.alike three = true := by
  intro first second third three rounded between
  have left : first.alike second = true := by decide +kernel
  have right : second.alike third = true := by decide +kernel
  have clash : first.ClashAt third [.index 1] 9007199254740993 9007199254740992 :=
    ⟨⟨by decide, rfl⟩, ⟨by decide, rfl⟩, by decide⟩
  have near : three.alike rounded = true := by decide +kernel
  have near' : rounded.alike three = true := alike_up_to_clashes.2.1 three rounded near
  have small : ∀ location m, three.HasInteger location m → m.natAbs ≤ 2 ^ 53 := by
    rintro (_ | ⟨_ | _, _⟩) m ⟨inRange, found⟩
    · obtain rfl : 3 = m := Number.int.inj (Value.number.inj (Option.some.inj found))
      decide
    · cases found
    · cases found
  obtain ⟨joined, clashes, _⟩ := alike_up_to_clashes.2.2 first second third left right
  have apart : first.alike third = false :=
    Bool.eq_false_iff.mpr fun alike => joined.mp alike ⟨_, _, _, clash⟩
  obtain ⟨between', there, same, _⟩ := clashes _ _ _ clash
  obtain rfl : between = between' := by
    cases there
    rfl
  have closed := (alike_up_to_clashes.2.2 three rounded three near near').2.2 small small
  exact ⟨left, right, clash, apart, there, same, near, near', small, closed⟩

/-- Two different integers are alike to the binary64 number that both are rounded to, and not to
each other. -/
theorem not_alike_of_alike :
    let odd : Value := .number (.int 9007199254740993 (by decide))
    let rounded : Value := .number (.double (Double.ofInt 9007199254740992))
    let even : Value := .number (.int 9007199254740992 (by decide))
    odd.alike rounded = true ∧ rounded.alike even = true ∧ odd.alike even = false := by
  decide +kernel

end Value

end Resumable.Json
