import Mathlib.Data.List.GetD
import Mathlib.Data.List.Sort
import Resumable.Live.Chronology

/-! # Interleaved lists

A list `Interleaves` parts if it is made by taking the items of the parts in
their order, turn by turn. The order of times keeps what is simultaneous in
place, so it is the same before and after a selection
(`chronological_filterMap`), and interleaved parts may be ordered one by one
(`Interleaves.chronological`).
-/

namespace Resumable

variable {α β : Type}

section Chronological

variable {time : α → Nat} {time' : β → Nat}

theorem insertByTime_eq_cons {item : α} {items : List α}
    (first : ∀ other ∈ items, time item ≤ time other) :
    insertByTime time item items = item :: items := by
  cases items with
  | nil => rfl
  | cons other rest => rw [insertByTime, if_pos (first other List.mem_cons_self)]

theorem filterMap_insertByTime {select : α → Option β}
    (keeps : ∀ item selected, select item = some selected → time' selected = time item)
    (item : α) {items : List α}
    (sorted : items.Pairwise fun left right => time left ≤ time right) :
    (insertByTime time item items).filterMap select =
      match select item with
      | some selected => insertByTime time' selected (items.filterMap select)
      | none => items.filterMap select := by
  induction items with
  | nil =>
      rw [insertByTime, List.filterMap_cons]
      cases select item with
      | none => rfl
      | some selected => rfl
  | cons first rest ih =>
      obtain ⟨above, tail⟩ := List.pairwise_cons.mp sorted
      rw [insertByTime]
      by_cases before : time item ≤ time first
      · rw [if_pos before, List.filterMap_cons (l := first :: rest)]
        cases chosen : select item with
        | none => rfl
        | some selected =>
            refine (insertByTime_eq_cons fun other member => ?_).symm
            obtain ⟨source, among, same⟩ := List.mem_filterMap.mp member
            rw [keeps item selected chosen, keeps source other same]
            rcases List.mem_cons.mp among with rfl | among
            · exact before
            · exact Nat.le_trans before (above source among)
      · rw [if_neg before, List.filterMap_cons, ih tail]
        cases kept : select first with
        | none => simp only [List.filterMap_cons_none kept]
        | some other =>
            cases chosen : select item with
            | none => simp only [List.filterMap_cons_some kept]
            | some selected =>
                have later : ¬ time' selected ≤ time' other := by
                  rwa [keeps item selected chosen, keeps first other kept]
                simp only [List.filterMap_cons_some kept, insertByTime, later, ↓reduceIte]

/-- Selecting items and ordering what is left is the same in either order. -/
theorem chronological_filterMap {select : α → Option β}
    (keeps : ∀ item selected, select item = some selected → time' selected = time item)
    (items : List α) :
    (chronological time items).filterMap select = chronological time' (items.filterMap select) := by
  induction items with
  | nil => rfl
  | cons item rest ih =>
      have inserted := filterMap_insertByTime keeps item (chronological_sorted time rest)
      rw [ih] at inserted
      rw [List.filterMap_cons]
      apply inserted.trans
      cases select item with
      | none => rfl
      | some selected => rfl

theorem chronological_map {change : α → β} (keeps : ∀ item, time' (change item) = time item)
    (items : List α) :
    (chronological time items).map change = chronological time' (items.map change) := by
  have kept : ∀ item changed, (some ∘ change) item = some changed → time' changed = time item := by
    intro item changed same
    cases same
    exact keeps item
  have selected := chronological_filterMap kept items
  rwa [List.filterMap_eq_map] at selected

theorem chronological_eq_insertionSort (items : List α) :
    chronological time items = items.insertionSort fun left right => time left ≤ time right := by
  induction items with
  | nil => rfl
  | cons item rest ih =>
      rw [List.insertionSort_cons, ← ih, chronological, List.foldr_cons, ← chronological]
      induction chronological time rest with
      | nil => rfl
      | cons first others ih' => rw [insertByTime, List.orderedInsert_cons, ih']

/-- Items that are in order of time among themselves stay in order. -/
theorem sublist_chronological {some items : List α} (among : some.Sublist items)
    (ordered : some.Pairwise fun left right => time left ≤ time right) :
    some.Sublist (chronological time items) := by
  have transitive : IsTrans α fun left right => time left ≤ time right :=
    ⟨fun _ _ _ => Nat.le_trans⟩
  have total : Std.Total fun left right : α => time left ≤ time right :=
    ⟨fun left right => Nat.le_total (time left) (time right)⟩
  rw [chronological_eq_insertionSort]
  exact List.sublist_insertionSort ordered among

end Chronological

/-- The items of `whole` that carry a tag. -/
def tagged (tag : Nat) (whole : List (Nat × α)) : List α :=
  whole.filterMap fun item => if item.1 = tag then some item.2 else none

/-- **The list is made of the items of the parts, those of each part in their order.** The
tags say which part an item comes from. -/
def Interleaves (parts : List (List α)) (whole : List α) : Prop :=
  ∃ tags : List (Nat × α), tags.map Prod.snd = whole ∧
    ∀ tag, tagged tag tags = parts.getD tag []

@[simp] theorem tagged_append (tag : Nat) (left right : List (Nat × α)) :
    tagged tag (left ++ right) = tagged tag left ++ tagged tag right :=
  List.filterMap_append

/-- Tags may be changed to others as long as they stay apart. -/
theorem tagged_map {change : Nat → Nat} (apart : change.Injective) (tag : Nat)
    (tags : List (Nat × α)) :
    tagged (change tag) (tags.map fun item => (change item.1, item.2)) = tagged tag tags := by
  unfold tagged
  rw [List.filterMap_map]
  apply List.filterMap_congr
  intro item _
  simp only [Function.comp_apply, apart.eq_iff]

theorem tagged_map_of_unused {change : Nat → Nat} {tag : Nat}
    (unused : ∀ other, change other ≠ tag) (tags : List (Nat × α)) :
    tagged tag (tags.map fun item => (change item.1, item.2)) = [] := by
  unfold tagged
  rw [List.filterMap_map]
  apply List.filterMap_eq_nil_iff.mpr
  intro item _
  simp only [Function.comp_apply, unused, ↓reduceIte]

namespace Interleaves

variable {first second : List α} {others further : List (List α)} {parts : List (List α)}
  {whole left right : List α}

theorem none_empty : Interleaves [] ([] : List α) :=
  ⟨[], rfl, fun _ => rfl⟩

theorem single (list : List α) : Interleaves [list] list := by
  refine ⟨list.map fun item => (0, item), ?_, ?_⟩
  · rw [List.map_map]
    exact List.map_id list
  · intro tag
    unfold tagged
    rw [List.filterMap_map]
    cases tag with
    | zero => exact List.filterMap_some
    | succ tag => exact List.filterMap_eq_nil_iff.mpr fun item _ => rfl

/-- A part without items adds nothing. -/
theorem nil_cons (interleaves : Interleaves parts whole) : Interleaves ([] :: parts) whole := by
  obtain ⟨tags, items, each⟩ := interleaves
  refine ⟨tags.map fun item => (item.1 + 1, item.2), ?_, ?_⟩
  · rw [List.map_map]
    exact items
  · intro tag
    cases tag with
    | zero => exact tagged_map_of_unused (fun other => Nat.succ_ne_zero other) tags
    | succ tag => rw [tagged_map (fun _ _ => Nat.succ.inj), each, List.getD_cons_succ]

/-- What is made of two families of parts one after the other is made of both;
the first parts are joined. -/
theorem append (before : Interleaves (first :: others) left)
    (after : Interleaves (second :: further) right) :
    Interleaves ((first ++ second) :: (others ++ further)) (left ++ right) := by
  obtain ⟨tags, items, each⟩ := before
  obtain ⟨tags', items', each'⟩ := after
  -- The parts of the second family get the tags after those of the first.
  let shift : Nat → Nat := fun tag => if tag = 0 then 0 else tag + others.length
  have apart : shift.Injective := by
    intro tag tag' same
    simp only [shift] at same
    split at same <;> split at same <;> omega
  refine ⟨tags ++ tags'.map fun item => (shift item.1, item.2), ?_, ?_⟩
  · rw [List.map_append, items, List.map_map]
    exact congrArg (left ++ ·) items'
  · intro tag
    rw [tagged_append, each]
    cases tag with
    | zero =>
        have shifted := tagged_map apart 0 tags'
        rw [show shift 0 = 0 from rfl, each'] at shifted
        rw [shifted]
        rfl
    | succ tag =>
        rw [List.getD_cons_succ, List.getD_cons_succ]
        by_cases own : tag < others.length
        · rw [List.getD_append _ _ _ _ own, tagged_map_of_unused, List.append_nil]
          intro other same
          simp only [shift] at same
          split at same <;> omega
        · obtain ⟨beyond, rfl⟩ := Nat.exists_eq_add_of_le (Nat.not_lt.mp own)
          have shifted := tagged_map apart (beyond + 1) tags'
          rw [show shift (beyond + 1) = others.length + beyond + 1 by
            simp only [shift, Nat.succ_ne_zero, ↓reduceIte]; omega, each'] at shifted
          rw [shifted, List.getD_cons_succ, List.getD_append_right _ _ _ _ (by omega),
            List.getD_eq_default _ _ (by omega), List.nil_append]
          congr 1
          omega

/-- Items are put before and after the first part. -/
theorem enclose (interleaves : Interleaves (first :: others) whole) (before after : List α) :
    Interleaves ((before ++ first ++ after) :: others) (before ++ whole ++ after) := by
  have opened := (single before).append interleaves
  have closed := opened.append (single after)
  rwa [List.nil_append, List.append_nil] at closed

/-- What is made of two families of parts one after the other is made of both. -/
theorem append_parts (before : Interleaves (first :: others) left)
    (after : Interleaves parts right) :
    Interleaves (first :: (others ++ parts)) (left ++ right) := by
  have joined := before.append after.nil_cons
  rwa [List.append_nil] at joined

/-- The whole has the items of all parts. -/
theorem mem_of_mem_part (interleaves : Interleaves parts whole) {part : List α}
    (among : part ∈ parts) {item : α} (member : item ∈ part) : item ∈ whole := by
  obtain ⟨tags, rfl, each⟩ := interleaves
  obtain ⟨tag, found⟩ := List.mem_iff_getElem?.mp among
  have own := each tag
  rw [List.getD_eq_getElem?_getD, found, Option.getD_some] at own
  rw [← own] at member
  obtain ⟨entry, carried, same⟩ := List.mem_filterMap.mp member
  refine List.mem_map.mpr ⟨entry, carried, ?_⟩
  split at same
  · exact Option.some.inj same
  · cases same

/-- The whole has no other items. -/
theorem exists_part_of_mem (interleaves : Interleaves parts whole) {item : α}
    (member : item ∈ whole) : ∃ part ∈ parts, item ∈ part := by
  obtain ⟨tags, rfl, each⟩ := interleaves
  obtain ⟨entry, carried, rfl⟩ := List.mem_map.mp member
  have own : entry.2 ∈ tagged entry.1 tags :=
    List.mem_filterMap.mpr ⟨entry, carried, if_pos rfl⟩
  rw [each, List.getD_eq_getElem?_getD] at own
  cases found : parts[entry.1]? with
  | none =>
      rw [found] at own
      cases own
  | some part =>
      rw [found] at own
      exact ⟨part, List.mem_of_getElem? found, own⟩

/-- The whole is the parts joined, in another order. -/
theorem perm_flatten (interleaves : Interleaves parts whole) :
    whole.Perm parts.flatten := by
  obtain ⟨tags, rfl, each⟩ := interleaves
  induction parts generalizing tags with
  | nil =>
      cases tags with
      | nil => exact .refl _
      | cons entry rest =>
          have own : entry.2 ∈ tagged entry.1 (entry :: rest) :=
            List.mem_filterMap.mpr ⟨entry, List.mem_cons_self, if_pos rfl⟩
          rw [each] at own
          cases own
  | cons first others ih =>
      -- The items of the first part have tag zero, and the tags of the others are lowered by one.
      let later := (tags.filter fun item => item.1 ≠ 0).map fun item => (item.1 - 1, item.2)
      have here : (tags.filter fun item => item.1 = 0).map Prod.snd = first := by
        rw [← show tagged 0 tags = first from each 0, tagged, ← List.filterMap_eq_map,
          List.filterMap_filter]
        apply List.filterMap_congr
        intro item _
        by_cases zero : item.1 = 0 <;> simp [zero]
      have there : ∀ tag, tagged tag later = others.getD tag [] := by
        intro tag
        rw [← show tagged (tag + 1) tags = others.getD tag [] from each (tag + 1), tagged, tagged,
          List.filterMap_map, List.filterMap_filter]
        apply List.filterMap_congr
        intro item _
        by_cases zero : item.1 = 0
        · simp [zero]
        · have lowered : item.1 - 1 = tag ↔ item.1 = tag + 1 := by omega
          simp [zero, lowered]
      have rest := ih later there
      rw [List.map_map] at rest
      have parted := (List.filter_append_perm (fun item => decide (item.1 = 0)) tags).symm.map
        Prod.snd
      rw [List.map_append, here] at parted
      refine parted.trans ?_
      rw [List.flatten_cons]
      refine List.Perm.append_left first ?_
      simpa [Function.comp_def] using rest

/-- The whole is the first part if the others are empty. -/
theorem eq_of_empty (interleaves : Interleaves (first :: others) whole)
    (empty : ∀ part ∈ others, part = []) : whole = first := by
  obtain ⟨tags, rfl, each⟩ := interleaves
  have all : tagged 0 tags = tags.map Prod.snd := by
    rw [← List.filterMap_eq_map]
    apply List.filterMap_congr
    intro entry member
    apply if_pos
    by_contra other
    -- An entry with another tag would be an item of an empty part.
    obtain ⟨tag, same⟩ := Nat.exists_eq_succ_of_ne_zero other
    have carried : entry.2 ∈ tagged entry.1 tags :=
      List.mem_filterMap.mpr ⟨entry, member, if_pos rfl⟩
    rw [each, same, List.getD_cons_succ, List.getD_eq_getElem?_getD] at carried
    cases found : others[tag]? with
    | none =>
        rw [found] at carried
        cases carried
    | some part =>
        rw [found, Option.getD_some, empty part (List.mem_of_getElem? found)] at carried
        cases carried
  exact all.symm.trans (each 0)

/-- Selecting items of the whole selects those of every part. -/
theorem filterMap (interleaves : Interleaves parts whole) (select : α → Option β) :
    Interleaves (parts.map (List.filterMap select)) (whole.filterMap select) := by
  obtain ⟨tags, rfl, each⟩ := interleaves
  let selectTagged : Nat × α → Option (Nat × β) := fun item =>
    (select item.2).map fun selected => (item.1, selected)
  refine ⟨tags.filterMap selectTagged, ?_, ?_⟩
  · rw [List.map_filterMap, List.filterMap_map]
    apply List.filterMap_congr
    intro item _
    simp only [selectTagged, Option.map_map, Function.comp_apply]
    exact Option.map_id'
  · intro tag
    have selected : tagged tag (tags.filterMap selectTagged) =
        (tagged tag tags).filterMap select := by
      unfold tagged
      rw [List.filterMap_filterMap, List.filterMap_filterMap]
      apply List.filterMap_congr
      intro item _
      simp only [selectTagged]
      by_cases own : item.1 = tag
      · cases chosen : select item.2 <;> simp [own, chosen]
      · cases select item.2 <;> simp [own]
    rw [selected, each, List.getD_eq_getElem?_getD, List.getD_eq_getElem?_getD, List.getElem?_map]
    cases parts[tag]? with
    | none => rfl
    | some part => rfl

/-- Putting the whole in order of time puts every part in order of time. -/
theorem chronological (interleaves : Interleaves parts whole) (time : α → Nat) :
    Interleaves (parts.map (Resumable.chronological time))
      (Resumable.chronological time whole) := by
  obtain ⟨tags, rfl, each⟩ := interleaves
  let tagTime : Nat × α → Nat := fun item => time item.2
  refine ⟨Resumable.chronological tagTime tags, chronological_map (fun _ => rfl) tags, ?_⟩
  intro tag
  have ordered : tagged tag (Resumable.chronological tagTime tags) =
      Resumable.chronological time (tagged tag tags) := by
    refine chronological_filterMap (fun item selected same => ?_) tags
    split at same
    · cases same
      rfl
    · cases same
  rw [ordered, each, List.getD_eq_getElem?_getD, List.getD_eq_getElem?_getD, List.getElem?_map]
  cases parts[tag]? with
  | none => rfl
  | some part => rfl

end Interleaves

end Resumable
