import Resumable.Json.Equality
import Resumable.Json.Compact

/-!
# The first difference between two values

`Value.difference?` walks two values side by side, objects in ascending order of their keys and
arrays by position, and reports the first place where they differ together with what stands there on
either side. Integers are compared exactly and other numbers as binary64 numbers, so that no
difference is found exactly when the values are equal up to `Number.sameValue`
(`Value.difference?_eq_none_iff`).
-/

namespace Resumable.Json

/-- One step from a value to a part of it. -/
inductive Segment
  | key (name : String)
  | index (position : Nat)
deriving DecidableEq

/-- The way from a value to a part of it. -/
abbrev Location := List Segment

namespace Segment

def text : Segment → String
  | .key name => "." ++ name
  | .index position => "[" ++ toString position ++ "]"

end Segment

/-- A location written from `$`, the whole value. -/
def Location.path (location : Location) : String :=
  location.foldl (fun path segment => path ++ segment.text) "$"

namespace Value

/-- The part that one step leads to. -/
def step? : Value → Segment → Option Value
  | .object fields, .key name => fields.get? name
  | .array elements, .index position => elements[position]?
  | _, _ => none

def at? (value : Value) : Location → Option Value
  | [] => some value
  | segment :: rest => (value.step? segment).bind fun part => part.at? rest

end Value

/-- A place where two values differ, and what stands there on either side. -/
structure Difference where
  location : Location
  expected : Option Value
  actual : Option Value
deriving DecidableEq

namespace Difference

/-- The same difference, seen from a value of which the compared ones are the part at `segment`. -/
def inside (segment : Segment) (difference : Difference) : Difference :=
  { difference with location := segment :: difference.location }

def path (difference : Difference) : String :=
  difference.location.path

/-- A side of the difference: its compact text, or that it is absent. -/
def sideText : Option Value → String
  | some value => value.compact
  | none => "<absent>"

def message (difference : Difference) : String :=
  "at `" ++ difference.path ++ "`: expected " ++ sideText difference.expected ++ ", got " ++
    sideText difference.actual

end Difference

namespace Value

mutual

/-- The first difference between an expected and an actual value. -/
def difference? : (expected actual : Value) → Option Difference
  | .object expected, .object actual => fieldDifference? expected actual
  | .array expected, .array actual => elementDifference? 0 expected actual
  | .number expected, .number actual =>
    if expected.sameValue actual then none
    else some ⟨[], some (.number expected), some (.number actual)⟩
  | .string expected, .string actual =>
    if expected = actual then none else some ⟨[], some (.string expected), some (.string actual)⟩
  | .bool expected, .bool actual =>
    if expected = actual then none else some ⟨[], some (.bool expected), some (.bool actual)⟩
  | .null, .null => none
  | expected, actual => some ⟨[], some expected, some actual⟩

/-- The first difference between arrays, of which the first elements have position `position`. -/
def elementDifference? (position : Nat) : (expected actual : List Value) → Option Difference
  | [], [] => none
  | expected :: _, [] => some ⟨[.index position], some expected, none⟩
  | [], actual :: _ => some ⟨[.index position], none, some actual⟩
  | expected :: expecteds, actual :: actuals =>
    match difference? expected actual with
    | some difference => some (difference.inside (.index position))
    | none => elementDifference? (position + 1) expecteds actuals

def fieldDifference? {bound bound' : Option String} :
    (expected : Fields bound) → (actual : Fields bound') → Option Difference
  | .nil, .nil => none
  | .cons key _ expected _, .nil => some ⟨[.key key], some expected, none⟩
  | .nil, .cons key _ actual _ => some ⟨[.key key], none, some actual⟩
  | .cons key _ expected expecteds, .cons key' _ actual actuals =>
    if key = key' then
      match difference? expected actual with
      | some difference => some (difference.inside (.key key))
      | none => fieldDifference? expecteds actuals
    else if key < key' then some ⟨[.key key], some expected, none⟩
    else some ⟨[.key key'], none, some actual⟩

end

def alike (expected actual : Value) : Bool :=
  (difference? expected actual).isNone

theorem alike_iff_difference? {expected actual : Value} :
    expected.alike actual = true ↔ expected.difference? actual = none :=
  Option.isNone_iff_eq_none

mutual

/-- No difference is found between values that are equal up to the value of their numbers. -/
theorem difference?_eq_none_iff : ∀ expected actual : Value,
    difference? expected actual = none ↔ expected.eqWith Number.sameValue actual = true
  | .null, actual => by cases actual <;> simp [difference?, eqWith]
  | .bool _, actual => by cases actual <;> simp [difference?, eqWith]
  | .number _, actual => by cases actual <;> simp [difference?, eqWith]
  | .string _, actual => by cases actual <;> simp [difference?, eqWith]
  | .array expected, actual => by
    cases actual <;> simp [difference?, eqWith, elementDifference?_eq_none_iff 0 expected]
  | .object expected, actual => by
    cases actual <;> simp [difference?, eqWith, fieldDifference?_eq_none_iff expected]

theorem elementDifference?_eq_none_iff (position : Nat) : ∀ expected actual : List Value,
    elementDifference? position expected actual = none ↔
      eqElementsWith Number.sameValue expected actual = true
  | [], actual => by cases actual <;> simp [elementDifference?, eqElementsWith]
  | expected :: expecteds, [] => by simp [elementDifference?, eqElementsWith]
  | expected :: expecteds, actual :: actuals => by
    have first := difference?_eq_none_iff expected actual
    have others := elementDifference?_eq_none_iff (position + 1) expecteds actuals
    simp only [elementDifference?, eqElementsWith, Bool.and_eq_true]
    cases found : difference? expected actual with
    | none => simp [← first, ← others, found]
    | some difference => simp [← first, found]

theorem fieldDifference?_eq_none_iff {bound bound' : Option String} :
    ∀ (expected : Fields bound) (actual : Fields bound'),
      fieldDifference? expected actual = none ↔ eqFieldsWith Number.sameValue expected actual = true
  | .nil, actual => by cases actual <;> simp [fieldDifference?, eqFieldsWith]
  | .cons key _ expected expecteds, .nil => by simp [fieldDifference?, eqFieldsWith]
  | .cons key _ expected expecteds, .cons key' _ actual actuals => by
    have first := difference?_eq_none_iff expected actual
    have others := fieldDifference?_eq_none_iff expecteds actuals
    simp only [fieldDifference?, eqFieldsWith, Bool.and_eq_true, beq_iff_eq]
    by_cases same : key = key'
    · cases found : difference? expected actual with
      | none => simp [← first, ← others, found, same]
      | some difference => simp [← first, found, same]
    · by_cases before : key < key' <;> simp [same, before]

end

theorem alike_iff {expected actual : Value} :
    expected.alike actual = true ↔
      expected.eqWith Number.sameValue actual = true := by
  rw [alike_iff_difference?, difference?_eq_none_iff]

end Value

end Resumable.Json
