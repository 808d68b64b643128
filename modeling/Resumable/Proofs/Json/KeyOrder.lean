import Mathlib.Data.String.Basic
import Mathlib.Tactic.SplitIfs
import Resumable.Json.Difference

/-! # The order in which parts are compared

Keys ascend by code point, which is the order of their UTF-8 bytes (`keyBytes_lt_iff`):
the first byte of a character tells how many bytes it has, and the bytes of characters
of one size are digits to the base 64. Locations are ordered as a walk meets them, a
value before its parts and the parts in order; of any two locations the walk meets one
first (`Location.eq_of_not_earlier`).
-/

namespace Resumable.Json

/-- The bytes of a key in UTF-8. -/
def keyBytes (key : String) : List UInt8 :=
  key.toUTF8.data.toList

theorem keyBytes_eq (key : String) : keyBytes key = key.toList.flatMap String.utf8EncodeChar := by
  rw [keyBytes, String.toUTF8_eq_toByteArray, ← String.utf8Encode_toList, List.utf8Encode,
    List.toList_data_toByteArray]

/-- The bytes of a greater character are greater, whatever follows. -/
theorem utf8EncodeChar_append_lt {c d : Char} (less : c < d) (cs ds : List UInt8) :
    String.utf8EncodeChar c ++ cs < String.utf8EncodeChar d ++ ds := by
  have values : c.val.toNat < d.val.toNat := less
  have bounded : d.val.toNat < 1114112 := by
    rcases d.valid with low | ⟨_, high⟩ <;> omega
  simp only [String.utf8EncodeChar]
  generalize c.val.toNat = m at values
  generalize d.val.toNat = n at values bounded
  -- One case for each pair of sizes; what remains is arithmetic on the digits.
  split_ifs <;>
    simp (disch := omega) only [List.cons_append, List.nil_append, List.cons_lt_cons_iff,
      UInt8.lt_iff_toNat_lt, ← UInt8.toNat_inj, UInt8.toNat_ofNat', Nat.reducePow,
      Nat.mod_eq_of_lt] <;> omega

theorem flatMap_utf8EncodeChar_lt {cs ds : List Char} (less : cs < ds) :
    cs.flatMap String.utf8EncodeChar < ds.flatMap String.utf8EncodeChar := by
  induction less with
  | @nil d ds =>
    have some_byte : 0 < (String.utf8EncodeChar d).length := by
      rw [String.length_utf8EncodeChar]
      exact d.utf8Size_pos
    obtain ⟨byte, rest, bytes⟩ := List.exists_cons_of_length_pos some_byte
    rw [List.flatMap_nil, List.flatMap_cons, bytes]
    exact List.nil_lt_cons _ _
  | rel less => exact utf8EncodeChar_append_lt less _ _
  | cons less ih => exact List.append_left_lt ih

/-- **Keys that ascend by code point ascend by their bytes.** -/
theorem keyBytes_lt_iff {left right : String} : keyBytes left < keyBytes right ↔ left < right := by
  have ascending {left right : String} (less : left < right) : keyBytes left < keyBytes right := by
    rw [keyBytes_eq, keyBytes_eq]
    exact flatMap_utf8EncodeChar_lt (String.lt_iff_toList_lt.mp less)
  constructor
  · intro less
    rcases lt_trichotomy left right with before | rfl | after
    · exact before
    · exact absurd less (List.lt_irrefl _)
    · exact absurd less (List.lt_asymm (ascending after))
  · exact ascending

/-- The order of the parts of a value: keys in the order of their bytes, and positions upwards.
No value has both. -/
def Segment.Before : Segment → Segment → Prop
  | .key first, .key second => keyBytes first < keyBytes second
  | .index first, .index second => first < second
  | .key _, .index _ => True
  | .index _, .key _ => False

instance : Std.Trichotomous Segment.Before where
  trichotomous first second := by
    intro not_before not_after
    cases first with
    | key name =>
      cases second with
      | key name' =>
        simp only [Segment.Before, keyBytes_lt_iff] at not_before not_after
        exact congrArg Segment.key (le_antisymm (not_lt.mp not_after) (not_lt.mp not_before))
      | index position' => exact absurd trivial not_before
    | index position =>
      cases second with
      | key name' => exact absurd trivial not_after
      | index position' =>
        exact congrArg Segment.index (le_antisymm (not_lt.mp not_after) (not_lt.mp not_before))

/-- The order in which a walk meets locations: a value before its parts, and a part with all that
is in it before the parts after it. -/
def Location.Earlier : Location → Location → Prop :=
  List.Lex Segment.Before

/-- Of two locations one is met first. -/
theorem Location.eq_of_not_earlier {first second : Location} (not_before : ¬ first.Earlier second)
    (not_after : ¬ second.Earlier first) : first = second :=
  Std.Trichotomous.trichotomous (r := List.Lex Segment.Before) first second not_before not_after

end Resumable.Json
