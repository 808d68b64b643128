import Mathlib.Data.List.Forall2

/-! # Lists whose items are read one by one

Reading each item of a list gives results if every item can be read. The results stand at the
positions of their items (`getElem?_of_mapM`), and a list of results is what is read exactly if
each result is what its item gives (`mapM_eq_some_iff`).
-/

namespace Resumable

variable {α β γ : Type} {f : α → Option β} {list : List α} {results : List β}

theorem mapM_eq_some_iff :
    list.mapM f = some results ↔
      List.Forall₂ (fun item result => f item = some result) list results := by
  induction list generalizing results with
  | nil =>
      rw [List.mapM_nil, List.forall₂_nil_left_iff]
      exact ⟨fun same => (Option.some.inj same).symm, fun same => congrArg some same.symm⟩
  | cons first rest ih =>
      simp only [List.mapM_cons, List.forall₂_cons_left_iff, Option.bind_eq_bind,
        Option.bind_eq_some_iff, Option.pure_def, Option.some.injEq, ih]
      constructor
      · rintro ⟨result, found, others, further, rfl⟩
        exact ⟨result, others, found, further, rfl⟩
      · rintro ⟨result, others, found, further, rfl⟩
        exact ⟨result, found, others, further, rfl⟩

theorem getElem?_of_mapM (mapped : list.mapM f = some results) :
    results.length = list.length ∧ ∀ i : Nat, results[i]? = list[i]?.bind f := by
  have each := mapM_eq_some_iff.mp mapped
  clear mapped
  induction each with
  | nil => exact ⟨rfl, fun _ => rfl⟩
  | cons found _ ih =>
      refine ⟨congrArg (· + 1) ih.1, fun i => ?_⟩
      cases i with
      | zero => exact found.symm
      | succ i => exact ih.2 i

theorem exists_mapM_eq_some (each : ∀ item ∈ list, ∃ result, f item = some result) :
    ∃ results, list.mapM f = some results := by
  induction list with
  | nil => exact ⟨[], List.mapM_nil⟩
  | cons first rest ih =>
      obtain ⟨result, found⟩ := each first List.mem_cons_self
      obtain ⟨others, further⟩ := ih fun item member => each item (List.mem_cons_of_mem _ member)
      refine ⟨result :: others, ?_⟩
      rw [List.mapM_cons, found, further]
      rfl

theorem mapM_map_option {g : α → Option γ} {change : β → γ}
    (same : ∀ item, g item = (f item).map change) (list : List α) :
    list.mapM g = (list.mapM f).map (List.map change) := by
  induction list with
  | nil => rfl
  | cons item rest ih =>
      simp only [List.mapM_cons, same, ih]
      cases f item with
      | none => rfl
      | some result =>
          cases rest.mapM f with
          | none => rfl
          | some results => rfl

end Resumable
