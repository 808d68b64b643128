import Resumable.Text.Quoted

/-! # Quoted texts are told apart

What stands for a character inside a quoted text is read back as that character, whatever follows
it (`readChar?_visibleChar`). So a quoted text has all there is in the text (`visible_inj`).
-/

namespace Resumable.Text

/-- The value of a hexadecimal digit. -/
def digitValue (digit : Char) : Nat :=
  "0123456789abcdef".toList.idxOf digit

/-- The number that hexadecimal digits write. -/
def hexValue (digits : List Char) : Nat :=
  digits.foldl (fun value digit => 16 * value + digitValue digit) 0

theorem digitValue_digitChar {number : Nat} (digit : number < 16) :
    digitValue number.digitChar = number := by
  revert number
  decide

theorem hexValue_toDigits (number : Nat) : hexValue (Nat.toDigits 16 number) = number := by
  induction number using Nat.strongRecOn with
  | ind number ih =>
    rw [Nat.toDigits_eq_if (by decide)]
    by_cases digit : number < 16
    · rw [if_pos digit]
      simp [hexValue, digitValue_digitChar digit]
    · have last : digitValue (number % 16).digitChar = number % 16 :=
        digitValue_digitChar (Nat.mod_lt _ (by decide))
      have before := ih (number / 16) (by omega)
      rw [if_neg digit, hexValue, List.foldl_append, ← hexValue, before]
      simp only [List.foldl_cons, List.foldl_nil, last]
      omega

theorem brace_notMem_toDigits (number : Nat) : '\x7d' ∉ Nat.toDigits 16 number := by
  induction number using Nat.strongRecOn with
  | ind number ih =>
    have noDigit (value : Nat) : value.digitChar ≠ '\x7d' := Nat.digitChar_ne _ (by decide)
    rw [Nat.toDigits_eq_if (by decide)]
    by_cases digit : number < 16
    · rw [if_pos digit, List.mem_singleton]
      exact (noDigit _).symm
    · rw [if_neg digit, List.mem_append, List.mem_singleton, not_or]
      exact ⟨ih (number / 16) (by omega), (noDigit _).symm⟩

/-- Reads the first character of a text that stands between quotes. -/
def readChar? : List Char → Option (Char × List Char)
  | '\\' :: '"' :: rest => some ('"', rest)
  | '\\' :: '\\' :: rest => some ('\\', rest)
  | '\\' :: 'n' :: rest => some ('\n', rest)
  | '\\' :: 'r' :: rest => some ('\r', rest)
  | '\\' :: 't' :: rest => some ('\t', rest)
  | '\\' :: '0' :: rest => some ('\x00', rest)
  | '\\' :: 'u' :: '\x7b' :: rest =>
    some (Char.ofNat (hexValue (rest.takeWhile (· ≠ '\x7d'))),
      (rest.dropWhile (· ≠ '\x7d')).tail)
  | c :: rest => some (c, rest)
  | [] => none

theorem readChar?_visibleChar (c : Char) (rest : List Char) :
    readChar? (visibleChar c ++ rest) = some (c, rest) := by
  unfold visibleChar
  split
  · rfl
  · rfl
  · rfl
  · rfl
  · rfl
  · rfl
  · by_cases glyph : hasGlyph c
    · rw [if_pos glyph, List.singleton_append]
      unfold readChar?
      split <;> simp_all
    · have digits : ∀ digit ∈ Nat.toDigits 16 c.toNat, decide (digit ≠ '\x7d') = true := by
        intro digit member
        refine decide_eq_true ?_
        rintro rfl
        exact brace_notMem_toDigits _ member
      rw [if_neg glyph]
      change readChar? ('\\' :: 'u' :: '\x7b' ::
        ((Nat.toDigits 16 c.toNat ++ ['\x7d']) ++ rest)) = _
      simp only [readChar?, List.append_assoc, List.takeWhile_append_of_pos digits,
        List.dropWhile_append_of_pos digits]
      simp [hexValue_toDigits, Char.ofNat_toNat]

theorem visibleChar_ne_nil (c : Char) : visibleChar c ≠ [] := by
  intro nothing
  have read := readChar?_visibleChar c []
  rw [nothing] at read
  cases read

theorem flatMap_visibleChar_inj {left right : List Char} :
    left.flatMap visibleChar = right.flatMap visibleChar ↔ left = right := by
  constructor
  · intro same
    induction left generalizing right with
    | nil =>
        cases right with
        | nil => rfl
        | cons c rest =>
            exact absurd (List.append_eq_nil_iff.mp same.symm).1 (visibleChar_ne_nil c)
    | cons c rest ih =>
        cases right with
        | nil => exact absurd (List.append_eq_nil_iff.mp same).1 (visibleChar_ne_nil c)
        | cons d others =>
            rw [List.flatMap_cons, List.flatMap_cons] at same
            have read := congrArg readChar? same
            rw [readChar?_visibleChar, readChar?_visibleChar] at read
            obtain ⟨first, following⟩ := Prod.mk.inj (Option.some.inj read)
            rw [first, ih following]
  · exact congrArg _

/-- **A quoted text has all there is in the text.** -/
theorem visible_inj {left right : String} : visible left = visible right ↔ left = right := by
  constructor
  · intro same
    have inside := congrArg String.toList same
    simp only [visible, String.toList_append, String.toList_ofList] at inside
    exact String.toList_inj.mp (flatMap_visibleChar_inj.mp (by simpa using inside))
  · exact congrArg _

end Resumable.Text
