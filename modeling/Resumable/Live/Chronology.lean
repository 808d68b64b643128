/-!
# Chronological order

`chronological` puts items in the order of their times and keeps the given order of items that have
the same time.
-/

namespace Resumable

variable {α : Type}

/-- Puts an item before the first that is not earlier. -/
def insertByTime (time : α → Nat) (item : α) : List α → List α
  | [] => [item]
  | first :: rest =>
    if time item ≤ time first then item :: first :: rest
    else first :: insertByTime time item rest

/-- Items in the order of their times. -/
def chronological (time : α → Nat) (items : List α) : List α :=
  items.foldr (insertByTime time) []

theorem insertByTime_perm (time : α → Nat) (item : α) (items : List α) :
    (insertByTime time item items).Perm (item :: items) := by
  induction items with
  | nil => exact .refl _
  | cons first rest ih =>
    rw [insertByTime]
    split
    · exact .refl _
    · exact (ih.cons first).trans (.swap item first rest)

theorem chronological_perm (time : α → Nat) (items : List α) :
    (chronological time items).Perm items := by
  induction items with
  | nil => exact .refl _
  | cons first rest ih => exact (insertByTime_perm time first _).trans (ih.cons first)

theorem insertByTime_sorted (time : α → Nat) (item : α) {items : List α}
    (sorted : items.Pairwise fun left right => time left ≤ time right) :
    (insertByTime time item items).Pairwise fun left right => time left ≤ time right := by
  induction items with
  | nil => exact List.pairwise_singleton ..
  | cons first rest ih =>
    obtain ⟨above, tail⟩ := List.pairwise_cons.1 sorted
    rw [insertByTime]
    by_cases before : time item ≤ time first
    · rw [if_pos before]
      refine List.pairwise_cons.2 ⟨?_, sorted⟩
      intro other member
      rcases List.mem_cons.1 member with rfl | member
      · exact before
      · exact Nat.le_trans before (above other member)
    · rw [if_neg before]
      refine List.pairwise_cons.2 ⟨?_, ih tail⟩
      intro other member
      rcases List.mem_cons.1 ((insertByTime_perm time item rest).mem_iff.1 member) with rfl | member
      · omega
      · exact above other member

theorem chronological_sorted (time : α → Nat) (items : List α) :
    (chronological time items).Pairwise fun left right => time left ≤ time right := by
  induction items with
  | nil => exact .nil
  | cons first rest ih => exact insertByTime_sorted time first ih

end Resumable
