import Resumable.Proofs.Json.Likeness

/-! # Where likeness is equality

Likeness and equality compare everything but numbers in the same way, and numbers in the same way
unless an integer meets a binary64 number. So equal values are alike, and alike values are equal
where no integer of one stands at the place of a binary64 number of the other
(`Value.strictEq_iff`); values that hold no binary64 number at all are alike only if they are
equal (`Value.alike_where_equal`).
-/

namespace Resumable.Json

namespace Number

variable {left right : Number}

/-- Both numbers are integers, or both are binary64 numbers. -/
inductive SameKind : Number → Number → Prop
  | ints (m n : Int) (inRange : -9223372036854775808 ≤ m ∧ m < 18446744073709551616)
      (inRange' : -9223372036854775808 ≤ n ∧ n < 18446744073709551616) :
      SameKind (.int m inRange) (.int n inRange')
  | doubles (left right : Double) : SameKind (.double left) (.double right)

/-- Numbers are equal if they have the same value and are of one kind. -/
theorem strictEq_iff :
    left.strictEq right = true ↔ left.sameValue right = true ∧ left.SameKind right := by
  cases left with
  | int m inRange =>
    cases right with
    | int n inRange' => exact (and_iff_left (.ints m n inRange inRange')).symm
    | double value => exact ⟨nofun, nofun⟩
  | double value =>
    cases right with
    | int n inRange' => exact ⟨nofun, nofun⟩
    | double value' => exact (and_iff_left (.doubles value value')).symm

end Number

namespace Value

variable {left right : Value}

/-- A weaker comparison of numbers makes more values equal. -/
theorem eqWith_mono {same same' : Number → Number → Bool}
    (weaker : ∀ first second, same first second = true → same' first second = true)
    (equal : left.eqWith same right = true) : left.eqWith same' right = true := by
  have itself : right.eqWith (· == ·) right = true := eqWith_beq_iff.mpr rfl
  apply eqWith_comp (fun first second third => ?_) left right right equal itself
  intro holds agree
  rw [← eq_of_beq agree]
  exact weaker first second holds

/-- **Values are equal if they are alike and their numbers are of one kind** wherever both hold
one. -/
theorem strictEq_iff : left.strictEq right = true ↔ left.alike right = true ∧
    ∀ location m n, left.at? location = some (.number m) →
      right.at? location = some (.number n) → m.SameKind n := by
  rw [alike_iff]
  constructor
  · intro equal
    refine ⟨eqWith_mono (fun _ _ => Number.sameValue_of_strictEq) equal, ?_⟩
    intro location m n found found'
    obtain ⟨other, there, same⟩ := exists_number_of_eqWith equal found
    cases there.symm.trans found'
    exact (Number.strictEq_iff.mp same).2
  · intro ⟨alike, kinds⟩
    have shape : left.eqWith (fun _ _ => true) right = true := eqWith_mono (fun _ _ _ => rfl) alike
    apply eqWith_of_numbers left right shape
    intro location m n found found'
    obtain ⟨other, there, same⟩ := exists_number_of_eqWith alike found
    cases there.symm.trans found'
    exact Number.strictEq_iff.mpr ⟨same, kinds location m n found found'⟩

/-- The value holds a binary64 number at some depth. -/
def HasDouble (value : Value) : Prop :=
  ∃ location double, value.at? location = some (.number (.double double))

theorem not_hasDouble_int {n : Int}
    {inRange : -9223372036854775808 ≤ n ∧ n < 18446744073709551616} :
    ¬ (number (.int n inRange)).HasDouble := by
  intro ⟨location, double, found⟩
  cases location with
  | nil => cases found
  | cons segment rest => cases segment <;> cases found

theorem exists_hasDouble_of_array {elements : List Value} (holds : (array elements).HasDouble) :
    ∃ element ∈ elements, element.HasDouble := by
  obtain ⟨location, double, found⟩ := holds
  cases location with
  | nil => cases found
  | cons segment rest =>
    obtain ⟨element, there, within⟩ := Option.bind_eq_some_iff.mp found
    cases segment with
    | key name => cases there
    | index position => exact ⟨element, List.mem_of_getElem? there, rest, double, within⟩

/-- **Likeness and equality agree where they should.** Between equal values no difference is
found; and if neither value holds a binary64 number, none is found only between equal ones. -/
theorem alike_where_equal (left right : Value) :
    (left.strictEq right = true → left.difference? right = none) ∧
    (¬ left.HasDouble → ¬ right.HasDouble → left.difference? right = none →
      left.strictEq right = true) := by
  rw [← alike_iff_difference?]
  constructor
  · intro equal
    exact (strictEq_iff.mp equal).1
  · intro whole whole' alike
    refine strictEq_iff.mpr ⟨alike, ?_⟩
    intro location m n found found'
    cases m with
    | double value => exact absurd ⟨location, value, found⟩ whole
    | int m inRange =>
      cases n with
      | double value => exact absurd ⟨location, value, found'⟩ whole'
      | int n inRange' => exact .ints m n inRange inRange'

/-- The two zeros are equal and alike, and so are the integers at both limits. -/
theorem alike_where_equal_at_limits :
    let zero : Value := .object (Fields.ofList [("zero", .number (.double (.zero false)))])
    let minus : Value := .object (Fields.ofList [("zero", .number (.double (.zero true)))])
    let limits : Value := .array [.number (.int (-9223372036854775808) (by decide)),
      .number (.int 18446744073709551615 (by decide))]
    zero.strictEq minus = true ∧ zero.difference? minus = none ∧
      ¬ limits.HasDouble ∧ limits.difference? limits = none ∧ limits.strictEq limits = true := by
  intro zero minus limits
  have equal : zero.strictEq minus = true := by decide
  have whole : ¬ limits.HasDouble := by
    intro holds
    obtain ⟨element, member, holds⟩ := exists_hasDouble_of_array holds
    simp only [List.mem_cons, List.not_mem_nil, or_false] at member
    rcases member with rfl | rfl <;> exact not_hasDouble_int holds
  have alike : limits.difference? limits = none := by decide
  exact ⟨equal, (alike_where_equal zero minus).1 equal, whole, alike,
    (alike_where_equal limits limits).2 whole whole alike⟩

end Value

end Resumable.Json
