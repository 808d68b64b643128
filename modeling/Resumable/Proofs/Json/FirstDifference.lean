import Resumable.Proofs.Json.KeyOrder
import Resumable.Proofs.Json.Likeness

/-! # What a reported difference says

A difference that is found between two values is real, it is located, and it is the first one:
its sides are what stands at its location, on the way there both values have containers of one
type, and whatever the walk meets before it is alike on both sides. These conditions hold of at
most one difference (`Difference.IsFirst.unique`), so that they describe the reported one exactly
(`Value.reported_iff_isFirst`).

Exchanging the values exchanges the sides of what is reported and nothing else
(`Value.sides_exchange`).
-/

namespace Resumable.Json

/-- The path of a location begins with `$` and goes on with the texts of its segments. -/
theorem Location.path_eq (location : Location) :
    location.path = "$" ++ String.join (location.map Segment.text) := by
  have after (start : String) :
      location.foldl (fun path segment => path ++ segment.text) start =
        start ++ String.join (location.map Segment.text) := by
    induction location generalizing start with
    | nil => exact String.append_empty.symm
    | cons segment rest ih =>
      rw [List.foldl_cons, ih, List.map_cons, String.join_cons, String.append_assoc]
  exact after "$"

namespace Value

/-- Both values are objects, or both are arrays, so that they are compared part by part. -/
inductive SameContainer : Value → Value → Prop
  | objects (left right : Fields none) : SameContainer (.object left) (.object right)
  | arrays (left right : List Value) : SameContainer (.array left) (.array right)

/-- Alike values, or none on either side. -/
abbrev BothAlike : Option Value → Option Value → Prop :=
  Option.Rel fun left right => left.alike right = true

variable {expected actual : Value} {difference : Difference}

theorem alike_of_difference? (found : expected.difference? actual = some difference) :
    expected.alike actual = false := by
  rw [alike, found]
  rfl

theorem bothAlike_at? (alike : expected.alike actual = true) (location : Location) :
    BothAlike (expected.at? location) (actual.at? location) := by
  simp only [BothAlike, alike_iff] at alike ⊢
  exact bothEqual_at? alike location

theorem bothAlike_bind {left right : Option Value} (alike : BothAlike left right)
    (location : Location) :
    BothAlike (left.bind fun part => part.at? location)
      (right.bind fun part => part.at? location) := by
  cases alike with
  | none => exact .none
  | some parts => exact bothAlike_at? parts location

theorem at?_singleton (value : Value) (segment : Segment) :
    value.at? [segment] = value.step? segment :=
  Option.bind_fun_some _

end Value

open Value

namespace Difference

/-- How the parts at one segment, if there are any, give the first difference of the containers:
they differ themselves, or one of them is absent. -/
inductive Arises (segment : Segment) (expected actual : Option Value) (difference : Difference) :
    Prop
  | inside {left right : Value} {inner : Difference} (there : expected = some left)
      (there' : actual = some right) (found : left.difference? right = some inner)
      (same : difference = inner.inside segment)
  | alone (lone : expected.isSome ≠ actual.isSome)
      (same : difference = ⟨[segment], expected, actual⟩)

theorem Arises.exists_some {segment : Segment} {expected actual : Option Value}
    {difference : Difference} (arises : Arises segment expected actual difference) :
    ∃ value, expected = some value ∨ actual = some value := by
  cases arises with
  | inside there _ _ _ => exact ⟨_, .inl there⟩
  | alone lone _ =>
    cases expected with
    | some value => exact ⟨value, .inl rfl⟩
    | none =>
      cases actual with
      | some value => exact ⟨value, .inr rfl⟩
      | none => exact absurd rfl lone

end Difference

section Walk

variable {difference : Difference}

theorem exists_index_of_elementDifference? {position : Nat} {expected actual : List Value}
    (found : elementDifference? position expected actual = some difference) :
    ∃ i, (∀ before < i, BothAlike expected[before]? actual[before]?) ∧
      Difference.Arises (.index (position + i)) expected[i]? actual[i]? difference := by
  induction expected generalizing position actual with
  | nil =>
    cases actual with
    | nil => cases found
    | cons actual actuals =>
      cases found
      exact ⟨0, nofun, .alone (by simp) rfl⟩
  | cons expected expecteds ih =>
    cases actual with
    | nil =>
      cases found
      exact ⟨0, nofun, .alone (by simp) rfl⟩
    | cons actual actuals =>
      rw [elementDifference?] at found
      cases first : expected.difference? actual with
      | some inner =>
        rw [first] at found
        cases found
        exact ⟨0, nofun, .inside rfl rfl first rfl⟩
      | none =>
        rw [first] at found
        obtain ⟨i, alike, arises⟩ := ih found
        rw [Nat.add_right_comm] at arises
        refine ⟨i + 1, ?_, arises⟩
        intro before less
        cases before with
        | zero => exact .some (alike_iff_difference?.mpr first)
        | succ before => exact alike before (Nat.lt_of_succ_lt_succ less)

/-- The first key of the expected fields is missing if the actual ones have none up to it. -/
theorem missing_of_absent {bound bound' : Option String} {key : String}
    (above : Follows bound key) (value : Value) (rest : Fields (some key)) {actual : Fields bound'}
    (absent : ∀ name ≤ key, actual.get? name = none) :
    (∀ before < key,
      BothAlike (Fields.get? before (.cons key above value rest)) (actual.get? before)) ∧
    Difference.Arises (.key key) (Fields.get? key (.cons key above value rest)) (actual.get? key)
      ⟨[.key key], some value, none⟩ := by
  constructor
  · intro before less
    rw [Fields.get?_cons_of_lt less, absent before less.le]
    exact .none
  · rw [Fields.get?_cons_self, absent key le_rfl]
    exact .alone (by simp) rfl

/-- The first key of the actual fields is surplus if the expected ones have none up to it. -/
theorem surplus_of_absent {bound bound' : Option String} {key : String}
    (above : Follows bound key) (value : Value) (rest : Fields (some key))
    {expected : Fields bound'} (absent : ∀ name ≤ key, expected.get? name = none) :
    (∀ before < key,
      BothAlike (expected.get? before) (Fields.get? before (.cons key above value rest))) ∧
    Difference.Arises (.key key) (expected.get? key) (Fields.get? key (.cons key above value rest))
      ⟨[.key key], none, some value⟩ := by
  constructor
  · intro before less
    rw [Fields.get?_cons_of_lt less, absent before less.le]
    exact .none
  · rw [Fields.get?_cons_self, absent key le_rfl]
    exact .alone (by simp) rfl

theorem exists_key_of_fieldDifference? : ∀ {bound bound' : Option String}
    {expected : Fields bound} {actual : Fields bound'},
    fieldDifference? expected actual = some difference →
    ∃ key, (∀ before < key, BothAlike (expected.get? before) (actual.get? before)) ∧
      Difference.Arises (.key key) (expected.get? key) (actual.get? key) difference
  | _, _, .nil, .nil, found => by cases found
  | _, _, .cons key above expected expecteds, .nil, found => by
    cases found
    exact ⟨key, missing_of_absent above expected expecteds fun _ _ => rfl⟩
  | _, _, .nil, .cons key above actual actuals, found => by
    cases found
    exact ⟨key, surplus_of_absent above actual actuals fun _ _ => rfl⟩
  | _, _, .cons key above expected expecteds, .cons key' above' actual actuals, found => by
    rw [fieldDifference?] at found
    rcases lt_trichotomy key key' with less | rfl | greater
    · rw [if_neg (ne_of_lt less), if_pos less] at found
      cases found
      refine ⟨key, missing_of_absent above expected expecteds ?_⟩
      intro name below
      exact Fields.get?_cons_of_lt (below.trans_lt less) above' actual actuals
    · rw [if_pos rfl] at found
      cases first : expected.difference? actual with
      | some inner =>
        rw [first] at found
        cases found
        refine ⟨key, ?_, ?_⟩
        · intro before below
          rw [Fields.get?_cons_of_lt below, Fields.get?_cons_of_lt below]
          exact .none
        · rw [Fields.get?_cons_self, Fields.get?_cons_self]
          exact .inside rfl rfl first rfl
      | none =>
        rw [first] at found
        obtain ⟨later, alike, arises⟩ := exists_key_of_fieldDifference? found
        -- The difference lies among the later fields, where `key` hides nothing.
        have after : key < later := by
          obtain ⟨value, here | here⟩ := arises.exists_some
          · exact Follows.some_iff.mp (Fields.follows_of_get? here)
          · exact Follows.some_iff.mp (Fields.follows_of_get? here)
        refine ⟨later, ?_, ?_⟩
        · intro before below
          rw [Fields.get?_cons, Fields.get?_cons]
          by_cases here : before = key
          · rw [if_pos here, if_pos here]
            exact .some (alike_iff_difference?.mpr first)
          · rw [if_neg here, if_neg here]
            exact alike before below
        · rwa [Fields.get?_cons, if_neg (ne_of_gt after), Fields.get?_cons, if_neg (ne_of_gt after)]
    · rw [if_neg (ne_of_gt greater), if_neg (lt_asymm greater)] at found
      cases found
      refine ⟨key', surplus_of_absent above' actual actuals ?_⟩
      intro name below
      exact Fields.get?_cons_of_lt (below.trans_lt greater) above expected expecteds

variable {expected actual : Value}

/-- Between containers of one type the difference arises at one segment, and what is compared
before it is alike. -/
theorem exists_segment_of_sameContainer (found : expected.difference? actual = some difference)
    (containers : expected.SameContainer actual) :
    ∃ segment, (∀ before : Segment, before.Before segment →
        BothAlike (expected.step? before) (actual.step? before)) ∧
      Difference.Arises segment (expected.step? segment) (actual.step? segment) difference := by
  cases containers with
  | objects fields fields' =>
    obtain ⟨key, alike, arises⟩ := exists_key_of_fieldDifference? found
    refine ⟨.key key, ?_, arises⟩
    intro before earlier
    cases before with
    | key name => exact alike name (keyBytes_lt_iff.mp earlier)
    | index position => exact .none
  | arrays elements elements' =>
    obtain ⟨i, alike, arises⟩ := exists_index_of_elementDifference? found
    rw [Nat.zero_add] at arises
    refine ⟨.index i, ?_, arises⟩
    intro before earlier
    cases before with
    | key name => exact .none
    | index position => exact alike position earlier

/-- Other values differ as a whole. -/
theorem eq_of_not_sameContainer (found : expected.difference? actual = some difference)
    (differ : ¬ expected.SameContainer actual) : difference = ⟨[], some expected, some actual⟩ := by
  cases expected with
  | null => cases actual <;> simp_all [difference?]
  | bool value => cases actual <;> simp_all [difference?]
  | number value => cases actual <;> simp_all [difference?]
  | string value => cases actual <;> simp_all [difference?]
  | array elements =>
    cases actual with
    | array elements' => exact absurd (.arrays elements elements') differ
    | _ => simp_all [difference?]
  | object fields =>
    cases actual with
    | object fields' => exact absurd (.objects fields fields') differ
    | _ => simp_all [difference?]

end Walk

/-- What makes a difference between two values real, located and the first one. -/
structure Difference.IsFirst (expected actual : Value) (difference : Difference) : Prop where
  /-- The path is the location written from `$`. -/
  path_eq : difference.path = "$" ++ String.join (difference.location.map Segment.text)
  /-- The sides are what stands at the location, none where it is absent. -/
  expected_eq : expected.at? difference.location = difference.expected
  actual_eq : actual.at? difference.location = difference.actual
  present : difference.expected ≠ none ∨ difference.actual ≠ none
  /-- All the way to the location both values have containers of one type. -/
  above : ∀ above : Location, above <+: difference.location → above ≠ difference.location →
    ∃ left right, expected.at? above = some left ∧ actual.at? above = some right ∧
      left.SameContainer right
  /-- Two values at the location are not alike, and are not compared part by part. -/
  apart : ∀ left right, difference.expected = some left → difference.actual = some right →
    left.alike right = false ∧ ¬ left.SameContainer right
  /-- Every location that the walk meets earlier leads to this one, or is alike on both sides. -/
  first : ∀ earlier : Location, earlier.Earlier difference.location →
    earlier <+: difference.location ∨ BothAlike (expected.at? earlier) (actual.at? earlier)

namespace Difference

variable {expected actual : Value} {segment : Segment} {difference other : Difference}

theorem isFirst_here (alike : expected.alike actual = false)
    (differ : ¬ expected.SameContainer actual) :
    IsFirst expected actual ⟨[], some expected, some actual⟩ where
  path_eq := Location.path_eq []
  expected_eq := rfl
  actual_eq := rfl
  present := .inl (Option.some_ne_none expected)
  above := by
    intro above below proper
    exact absurd (List.prefix_nil.mp below) proper
  apart := by
    intro left right there there'
    cases there
    cases there'
    exact ⟨alike, differ⟩
  first := by
    intro earlier before
    cases before

theorem isFirst_alone (containers : expected.SameContainer actual)
    (alike : ∀ before : Segment, before.Before segment →
      BothAlike (expected.step? before) (actual.step? before))
    (lone : (expected.step? segment).isSome ≠ (actual.step? segment).isSome) :
    IsFirst expected actual ⟨[segment], expected.step? segment, actual.step? segment⟩ where
  path_eq := Location.path_eq [segment]
  expected_eq := at?_singleton expected segment
  actual_eq := at?_singleton actual segment
  present := by
    by_contra absent
    rw [not_or, not_not, not_not] at absent
    have none_there : expected.step? segment = none := absent.1
    have none_there' : actual.step? segment = none := absent.2
    exact lone (by rw [none_there, none_there'])
  above := by
    intro above below proper
    rcases List.prefix_cons_iff.mp below with rfl | ⟨rest, rfl, within⟩
    · exact ⟨expected, actual, rfl, rfl, containers⟩
    · rw [List.prefix_nil.mp within] at proper
      exact absurd rfl proper
  apart := by
    intro left right there there'
    have some_there : expected.step? segment = some left := there
    have some_there' : actual.step? segment = some right := there'
    exact absurd (by rw [some_there, some_there']; rfl) lone
  first := by
    intro earlier before
    cases before with
    | nil => exact .inl List.nil_prefix
    | rel before => exact .inr (bothAlike_bind (alike _ before) _)
    | cons before => cases before

theorem isFirst_inside {left right : Value} {inner : Difference}
    (containers : expected.SameContainer actual)
    (alike : ∀ before : Segment, before.Before segment →
      BothAlike (expected.step? before) (actual.step? before))
    (there : expected.step? segment = some left) (there' : actual.step? segment = some right)
    (first : inner.IsFirst left right) : IsFirst expected actual (inner.inside segment) where
  path_eq := Location.path_eq _
  expected_eq := by
    rw [inside, at?, there]
    exact first.expected_eq
  actual_eq := by
    rw [inside, at?, there']
    exact first.actual_eq
  present := first.present
  above := by
    intro above below proper
    rcases List.prefix_cons_iff.mp below with rfl | ⟨rest, rfl, within⟩
    · exact ⟨expected, actual, rfl, rfl, containers⟩
    · rw [at?, at?, there, there']
      apply first.above rest within
      intro whole
      exact proper (congrArg (segment :: ·) whole)
  apart := first.apart
  first := by
    intro earlier before
    cases before with
    | nil => exact .inl List.nil_prefix
    | rel before => exact .inr (bothAlike_bind (alike _ before) _)
    | cons before =>
      rw [at?, at?, there, there']
      rcases first.first _ before with within | alike
      · exact .inl ((List.prefix_cons_inj segment).mpr within)
      · exact .inr alike

theorem IsFirst.not_bothAlike (first : difference.IsFirst expected actual) :
    ¬ BothAlike (expected.at? difference.location) (actual.at? difference.location) := by
  intro alike
  have present := first.present
  have apart := first.apart
  rw [first.expected_eq, first.actual_eq] at alike
  generalize difference.expected = side at alike present apart
  generalize difference.actual = side' at alike present apart
  cases alike with
  | none => exact present.elim (· rfl) (· rfl)
  | some parts =>
    rw [(apart _ _ rfl rfl).1] at parts
    cases parts

/-- No first difference lies before another one. -/
theorem IsFirst.not_earlier (first : difference.IsFirst expected actual)
    (second : other.IsFirst expected actual) (differ : difference.location ≠ other.location) :
    ¬ difference.location.Earlier other.location := by
  intro earlier
  rcases second.first _ earlier with above | alike
  · obtain ⟨left, right, there, there', containers⟩ := second.above _ above differ
    rw [first.expected_eq] at there
    rw [first.actual_eq] at there'
    exact (first.apart left right there there').2 containers
  · exact first.not_bothAlike alike

/-- **There is only one first difference.** -/
theorem IsFirst.unique (first : difference.IsFirst expected actual)
    (second : other.IsFirst expected actual) : difference = other := by
  have location : difference.location = other.location := by
    by_contra differ
    exact differ (Location.eq_of_not_earlier (first.not_earlier second differ)
      (second.not_earlier first (Ne.symm differ)))
  obtain ⟨_, _, _⟩ := difference
  obtain ⟨_, _, _⟩ := other
  cases location
  cases first.expected_eq.symm.trans second.expected_eq
  cases first.actual_eq.symm.trans second.actual_eq
  rfl

end Difference

namespace Value

/-- By induction on the length of the location, which a walk into a part makes shorter. -/
theorem isFirst_of_difference? {expected actual : Value} {difference : Difference}
    (found : expected.difference? actual = some difference) :
    difference.IsFirst expected actual := by
  by_cases containers : expected.SameContainer actual
  · obtain ⟨segment, alike, arises⟩ := exists_segment_of_sameContainer found containers
    cases arises with
    | @inside left right inner there there' found' same =>
      subst same
      have first : inner.IsFirst left right := isFirst_of_difference? found'
      exact Difference.isFirst_inside containers alike there there' first
    | alone lone same =>
      subst same
      exact Difference.isFirst_alone containers alike lone
  · have whole := eq_of_not_sameContainer found containers
    subst whole
    exact Difference.isFirst_here (alike_of_difference? found) containers
termination_by difference.location.length
decreasing_by
  rw [same]
  exact Nat.lt_succ_self _

/-- **What is reported is the first difference**, and a first difference is reported. -/
theorem reported_iff_isFirst {expected actual : Value} {difference : Difference} :
    expected.difference? actual = some difference ↔ difference.IsFirst expected actual := by
  constructor
  · exact isFirst_of_difference?
  · intro first
    cases found : expected.difference? actual with
    | some other => rw [(isFirst_of_difference? found).unique first]
    | none =>
      have alike := alike_iff_difference?.mpr found
      exact absurd (bothAlike_at? alike difference.location) first.not_bothAlike

-- The arrays agree as far as both go, and the later key is not reached.
example :
    (object (.ofList [("a", .array [.null, .bool true]), ("b", .null)])).difference?
      (.object (.ofList [("a", .array [.null])])) =
    some ⟨[.key "a", .index 1], some (.bool true), none⟩ := by decide

end Value

/-- The same place with the sides exchanged. -/
def Difference.swap (difference : Difference) : Difference :=
  { difference with expected := difference.actual, actual := difference.expected }

namespace Value

mutual

theorem difference?_swap : ∀ expected actual : Value,
    actual.difference? expected = (expected.difference? actual).map Difference.swap
  | .null, actual => by cases actual <;> rfl
  | .bool value, actual => by
    cases actual with
    | bool value' =>
      by_cases same : value = value'
      · simp [difference?, same]
      · simp [difference?, same, Ne.symm same, Difference.swap]
    | _ => rfl
  | .number m, actual => by
    cases actual with
    | number n =>
      rw [difference?, difference?, Number.sameValue_comm]
      by_cases same : m.sameValue n = true
      · rw [if_pos same, if_pos same]
        rfl
      · rw [if_neg same, if_neg same]
        rfl
    | _ => rfl
  | .string text, actual => by
    cases actual with
    | string text' =>
      by_cases same : text = text'
      · simp [difference?, same]
      · simp [difference?, same, Ne.symm same, Difference.swap]
    | _ => rfl
  | .array elements, actual => by
    cases actual with
    | array elements' => exact elementDifference?_swap 0 elements elements'
    | _ => rfl
  | .object fields, actual => by
    cases actual with
    | object fields' => exact fieldDifference?_swap fields fields'
    | _ => rfl

theorem elementDifference?_swap (position : Nat) : ∀ expected actual : List Value,
    elementDifference? position actual expected =
      (elementDifference? position expected actual).map Difference.swap
  | [], actual => by cases actual <;> rfl
  | _ :: _, [] => rfl
  | expected :: expecteds, actual :: actuals => by
    rw [elementDifference?, elementDifference?, difference?_swap expected actual]
    cases expected.difference? actual with
    | none => exact elementDifference?_swap (position + 1) expecteds actuals
    | some difference => rfl

theorem fieldDifference?_swap {bound bound' : Option String} :
    ∀ (expected : Fields bound) (actual : Fields bound'),
      fieldDifference? actual expected = (fieldDifference? expected actual).map Difference.swap
  | .nil, actual => by cases actual <;> rfl
  | .cons _ _ _ _, .nil => rfl
  | .cons key _ expected expecteds, .cons key' _ actual actuals => by
    rw [fieldDifference?, fieldDifference?]
    rcases lt_trichotomy key key' with before | rfl | after
    · rw [if_neg (ne_of_gt before), if_neg (lt_asymm before), if_neg (ne_of_lt before),
        if_pos before]
      rfl
    · rw [if_pos rfl, if_pos rfl, difference?_swap expected actual]
      cases expected.difference? actual with
      | none => exact fieldDifference?_swap expecteds actuals
      | some difference => rfl
    · rw [if_neg (ne_of_lt after), if_pos after, if_neg (ne_of_gt after), if_neg (lt_asymm after)]
      rfl

end

/-- **Exchanging the values exchanges the sides of what is reported.** Nothing is reported in one
direction if nothing is in the other, and otherwise the location is the same in both. -/
theorem sides_exchange (left right : Value) :
    (left.difference? right = none ↔ right.difference? left = none) ∧
    ∀ location side side', left.difference? right = some ⟨location, side, side'⟩ ↔
      right.difference? left = some ⟨location, side', side⟩ := by
  have forward := difference?_swap left right
  have back := difference?_swap right left
  refine ⟨?_, ?_⟩
  · rw [forward, Option.map_eq_none_iff]
  · intro location side side'
    constructor
    · intro found
      rw [forward, found]
      rfl
    · intro found
      rw [back, found]
      rfl

end Value

end Resumable.Json
