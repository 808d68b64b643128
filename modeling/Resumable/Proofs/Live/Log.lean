import Resumable.Proofs.Live.Tree

/-! # The log of an invocation

An invocation's own records are marked with what they report: that it begins or
has settled, or that the command at a position of a step is issued or has
settled. Its log has them in the order in which they are emitted, and a record
that it lists before another precedes it in the log unless its time is later
(`LiveInvocation.precedes_of_before`).
-/

namespace Resumable

open Json (Value)

/-- What an own record of an invocation reports. -/
inductive Mark
  /-- The invocation begins. -/
  | opened
  /-- The command at a position of a step is issued. -/
  | issued (step index : Nat)
  /-- The command at a position of a step has settled. -/
  | settled (step index : Nat)
  /-- The invocation has settled. -/
  | closed
deriving DecidableEq

namespace Mark

/-- The order in which an invocation lists its records. -/
def Before : Mark → Mark → Prop
  | opened, opened => False
  | opened, _ => True
  | issued step index, issued step' index' => step < step' ∨ step = step' ∧ index < index'
  | issued step index, settled step' index' => step < step' ∨ step = step' ∧ index ≤ index'
  | settled step index, issued step' index' => step < step' ∨ step = step' ∧ index < index'
  | settled step index, settled step' index' => step < step' ∨ step = step' ∧ index < index'
  | issued _ _, closed => True
  | settled _ _, closed => True
  | _, _ => False

/-- The mark belongs to a later step, or to the end. -/
def After (step : Nat) : Mark → Prop
  | opened => False
  | issued later _ => step < later
  | settled later _ => step < later
  | closed => True

theorem before_asymm {mark mark' : Mark} (before : mark.Before mark') : ¬ mark'.Before mark := by
  cases mark <;> cases mark' <;> simp only [Before, not_false_eq_true] at before ⊢
  all_goals omega

theorem before_of_after {step index : Nat} {mark : Mark} (after : mark.After step) :
    (settled step index).Before mark := by
  cases mark with
  | opened => exact after
  | issued later position => exact .inl after
  | settled later position => exact .inl after
  | closed => trivial

end Mark

/-- A command's own records, with what they report. -/
def Dispatch.marked (dispatch : Dispatch) (step index : Nat) : List (Mark × Emission) :=
  (.issued step index, dispatch.opened) ::
    dispatch.closed.toList.map fun emission => (.settled step index, emission)

/-- The records of the commands of a step, with what they report. -/
def Stage.marked (stage : Stage (List Dispatch) Empty) (step : Nat) : List (Mark × Emission) :=
  stage.evidence.zipIdx.flatMap fun entry => entry.1.marked step entry.2

namespace LiveInvocation

/-- An invocation's own records, with what they report. -/
def marked (invocation : LiveInvocation) : List (Mark × Emission) :=
  (.opened, invocation.opened) ::
    ((invocation.stages.zipIdx.flatMap fun entry => entry.1.marked entry.2) ++
      invocation.closed.toList.map fun emission => (.closed, emission))

/-- An invocation's own records in the order in which they are emitted. -/
def log (invocation : LiveInvocation) : List (Mark × Record) :=
  (chronological (fun entry => entry.2.time) invocation.marked).map fun entry =>
    (entry.1, entry.2.record)

/-- One record is emitted before another. -/
def Precedes (invocation : LiveInvocation) (earlier later : Mark) : Prop :=
  [earlier, later].Sublist (invocation.log.map Prod.fst)

/-- The record is the invocation's own, and it reports an event. -/
def Reports (invocation : LiveInvocation) (mark : Mark) (event : Event) : Prop :=
  (mark, ⟨invocation.site.trace, event⟩) ∈ invocation.log

end LiveInvocation

section Marked

/-- What is made of two lists position by position is the same. -/
theorem flatMap_zipIdx_congr {α β γ : Type} {list : List α} {list' : List β}
    {make : α × Nat → List γ} {make' : β × Nat → List γ} (length : list.length = list'.length)
    (same : ∀ (i : Nat) (item : α) (item' : β), list[i]? = some item → list'[i]? = some item' →
      make (item, i) = make' (item', i)) :
    list.zipIdx.flatMap make = list'.zipIdx.flatMap make' := by
  rw [List.flatMap_def, List.flatMap_def]
  congr 1
  apply List.ext_getElem?
  intro i
  rw [List.getElem?_map, List.getElem?_map, List.getElem?_zipIdx, List.getElem?_zipIdx,
    Nat.zero_add]
  by_cases inside : i < list.length
  · have inside' : i < list'.length := length ▸ inside
    have found := List.getElem?_eq_getElem inside
    have found' := List.getElem?_eq_getElem inside'
    rw [found, found']
    exact congrArg some (same i _ _ found found')
  · rw [List.getElem?_eq_none (by omega), List.getElem?_eq_none (by omega)]
    rfl

/-- Positions that nothing depends on may be left out. -/
theorem flatMap_zipIdx_eq {α β : Type} {list : List α} {make : α × Nat → List β}
    {plain : α → List β}
    (same : ∀ (i : Nat) (item : α), list[i]? = some item → make (item, i) = plain item) :
    list.zipIdx.flatMap make = list.flatMap plain := by
  have plainly : (list.zipIdx.map Prod.fst).flatMap plain =
      list.zipIdx.flatMap (plain ∘ Prod.fst) := List.flatMap_map ..
  rw [List.zipIdx_map_fst] at plainly
  rw [plainly]
  apply flatMap_zipIdx_congr rfl
  intro i item item' found found'
  cases found.symm.trans found'
  exact same i item found

theorem Dispatch.map_snd_marked (dispatch : Dispatch) (step index : Nat) :
    (dispatch.marked step index).map Prod.snd = dispatch.own := by
  rw [marked, own, List.map_cons, List.map_map]
  exact congrArg _ (List.map_id _)

theorem Stage.map_snd_marked (stage : Stage (List Dispatch) Empty) (step : Nat) :
    (stage.marked step).map Prod.snd = stage.own := by
  unfold marked own
  rw [List.map_flatMap]
  exact flatMap_zipIdx_eq fun index dispatch _ => dispatch.map_snd_marked step index

/-- The marks only say what the records report. -/
theorem LiveInvocation.map_snd_marked (invocation : LiveInvocation) :
    invocation.marked.map Prod.snd = invocation.own := by
  have stages : (invocation.stages.zipIdx.flatMap fun entry => entry.1.marked entry.2).map
      Prod.snd = invocation.stages.flatMap Stage.own := by
    rw [List.map_flatMap]
    exact flatMap_zipIdx_eq fun step stage _ => stage.map_snd_marked step
  have closing : (invocation.closed.toList.map fun emission => (Mark.closed, emission)).map
      Prod.snd = invocation.closed.toList := by
    rw [List.map_map]
    exact List.map_id _
  rw [marked, own, List.map_cons, List.map_append, stages, closing]

theorem mem_flatMap_zipIdx_iff {α β : Type} {mark : α × Nat → List β} {list : List α} {item : β} :
    item ∈ list.zipIdx.flatMap mark ↔ ∃ i source, list[i]? = some source ∧
      item ∈ mark (source, i) := by
  rw [List.mem_flatMap]
  constructor
  · rintro ⟨⟨source, i⟩, member, marked⟩
    exact ⟨i, source, List.mem_zipIdx_iff_getElem?.mp member, marked⟩
  · rintro ⟨i, source, found, marked⟩
    exact ⟨(source, i), List.mem_zipIdx_iff_getElem?.mpr found, marked⟩

theorem Dispatch.mem_marked_iff {dispatch : Dispatch} {step index : Nat} {mark : Mark}
    {emission : Emission} :
    (mark, emission) ∈ dispatch.marked step index ↔
      (mark = .issued step index ∧ emission = dispatch.opened) ∨
        (mark = .settled step index ∧ dispatch.closed = some emission) := by
  rw [marked, List.mem_cons, Prod.mk.injEq]
  simp only [List.mem_map, Option.mem_toList, Prod.mk.injEq]
  constructor
  · rintro (here | ⟨other, closed, rfl, rfl⟩)
    · exact .inl here
    · exact .inr ⟨rfl, closed⟩
  · rintro (here | ⟨rfl, closed⟩)
    · exact .inl here
    · exact .inr ⟨emission, closed, rfl, rfl⟩

/-- The records of an invocation, by what they report. -/
theorem LiveInvocation.mem_marked_iff {invocation : LiveInvocation} {mark : Mark}
    {emission : Emission} :
    (mark, emission) ∈ invocation.marked ↔
      (mark = .opened ∧ emission = invocation.opened) ∨
        (∃ (n : Nat) (stage : Stage (List Dispatch) Empty) (i : Nat) (dispatch : Dispatch),
          invocation.stages[n]? = some stage ∧ stage.evidence[i]? = some dispatch ∧
            (mark, emission) ∈ dispatch.marked n i) ∨
        (mark = .closed ∧ invocation.closed = some emission) := by
  rw [marked, List.mem_cons, Prod.mk.injEq, List.mem_append, mem_flatMap_zipIdx_iff]
  have closing : (mark, emission) ∈ (invocation.closed.toList.map fun last =>
      (Mark.closed, last)) ↔ mark = .closed ∧ invocation.closed = some emission := by
    simp only [List.mem_map, Option.mem_toList, Prod.mk.injEq]
    constructor
    · rintro ⟨last, closed, rfl, rfl⟩
      exact ⟨rfl, closed⟩
    · rintro ⟨rfl, closed⟩
      exact ⟨emission, closed, rfl, rfl⟩
  have staged : (∃ (n : Nat) (stage : Stage (List Dispatch) Empty),
      invocation.stages[n]? = some stage ∧ (mark, emission) ∈ stage.marked n) ↔
      ∃ (n : Nat) (stage : Stage (List Dispatch) Empty) (i : Nat) (dispatch : Dispatch),
        invocation.stages[n]? = some stage ∧ stage.evidence[i]? = some dispatch ∧
          (mark, emission) ∈ dispatch.marked n i := by
    simp only [Stage.marked, mem_flatMap_zipIdx_iff]
    constructor
    · rintro ⟨n, stage, found, i, dispatch, issued, member⟩
      exact ⟨n, stage, i, dispatch, found, issued, member⟩
    · rintro ⟨n, stage, i, dispatch, found, issued, member⟩
      exact ⟨n, stage, found, i, dispatch, issued, member⟩
  rw [closing, staged]

theorem pairwise_flatMap_zipIdx {α : Type} {mark : α × Nat → List (Mark × Emission)}
    {list : List α}
    (inside : ∀ item index, ((mark (item, index)).map Prod.fst).Pairwise Mark.Before)
    (across : ∀ item index item' index', index < index' → ∀ entry ∈ mark (item, index),
      ∀ entry' ∈ mark (item', index'), entry.1.Before entry'.1) :
    ((list.zipIdx.flatMap mark).map Prod.fst).Pairwise Mark.Before := by
  rw [List.pairwise_map, List.pairwise_flatMap]
  refine ⟨fun entry _ => List.pairwise_map.mp (inside entry.1 entry.2), ?_⟩
  have ascending : (list.zipIdx.map Prod.snd).Pairwise (· < ·) := by
    rw [List.zipIdx_map_snd]
    exact List.pairwise_lt_range'
  refine (List.pairwise_map.mp ascending).imp fun {entry entry'} before => ?_
  exact across entry.1 entry.2 entry'.1 entry'.2 before

theorem Dispatch.fst_of_mem_marked {dispatch : Dispatch} {step index : Nat}
    {entry : Mark × Emission} (member : entry ∈ dispatch.marked step index) :
    entry.1 = .issued step index ∨ entry.1 = .settled step index := by
  rcases mem_marked_iff.mp member with ⟨mark, _⟩ | ⟨mark, _⟩
  · exact .inl mark
  · exact .inr mark

theorem Stage.fst_of_mem_marked {stage : Stage (List Dispatch) Empty} {step : Nat}
    {entry : Mark × Emission} (member : entry ∈ stage.marked step) :
    ∃ index, entry.1 = .issued step index ∨ entry.1 = .settled step index := by
  obtain ⟨index, dispatch, _, marked⟩ := mem_flatMap_zipIdx_iff.mp member
  exact ⟨index, Dispatch.fst_of_mem_marked marked⟩

/-- An invocation lists its records in order. -/
theorem LiveInvocation.pairwise_marked (invocation : LiveInvocation) :
    (invocation.marked.map Prod.fst).Pairwise Mark.Before := by
  have dispatches : ∀ (dispatch : Dispatch) (step index : Nat),
      ((dispatch.marked step index).map Prod.fst).Pairwise Mark.Before := by
    intro dispatch step index
    unfold Dispatch.marked
    cases dispatch.closed with
    | none => exact List.pairwise_singleton ..
    | some emission =>
        refine List.pairwise_cons.mpr ⟨fun mark member => ?_, List.pairwise_singleton ..⟩
        obtain rfl := List.mem_singleton.mp member
        exact .inr ⟨rfl, Nat.le_refl _⟩
  have stages : ∀ (stage : Stage (List Dispatch) Empty) (step : Nat),
      ((stage.marked step).map Prod.fst).Pairwise Mark.Before := by
    intro stage step
    apply pairwise_flatMap_zipIdx (fun dispatch index => dispatches dispatch step index)
    intro dispatch index dispatch' index' before entry member entry' member'
    rcases Dispatch.fst_of_mem_marked member with mark | mark <;>
      rcases Dispatch.fst_of_mem_marked member' with mark' | mark' <;>
        rw [mark, mark']
    · exact .inr ⟨rfl, before⟩
    · exact .inr ⟨rfl, Nat.le_of_lt before⟩
    · exact .inr ⟨rfl, before⟩
    · exact .inr ⟨rfl, before⟩
  unfold marked
  rw [List.map_cons, List.map_append]
  refine List.pairwise_cons.mpr ⟨fun mark member => ?_, List.pairwise_append.mpr ⟨?_, ?_, ?_⟩⟩
  · cases mark with
    | opened =>
        rw [← List.map_append] at member
        obtain ⟨entry, among, same⟩ := List.mem_map.mp member
        rcases List.mem_append.mp among with staged | closed
        · obtain ⟨n, stage, _, marked⟩ := mem_flatMap_zipIdx_iff.mp staged
          obtain ⟨index, mark | mark⟩ := Stage.fst_of_mem_marked marked
          · rw [mark] at same
            cases same
          · rw [mark] at same
            cases same
        · obtain ⟨emission, _, rfl⟩ := List.mem_map.mp closed
          cases same
    | issued step index => trivial
    | settled step index => trivial
    | closed => trivial
  · apply pairwise_flatMap_zipIdx (fun stage step => stages stage step)
    intro stage step stage' step' before entry member entry' member'
    obtain ⟨index, mark | mark⟩ := Stage.fst_of_mem_marked member <;>
      obtain ⟨index', mark' | mark'⟩ := Stage.fst_of_mem_marked member' <;>
        rw [mark, mark'] <;> exact .inl before
  · cases invocation.closed with
    | none => exact .nil
    | some emission => exact List.pairwise_singleton ..
  · intro mark member mark' member'
    obtain ⟨entry, staged, rfl⟩ := List.mem_map.mp member
    obtain ⟨n, stage, _, marked⟩ := mem_flatMap_zipIdx_iff.mp staged
    obtain ⟨last, closed, rfl⟩ := List.mem_map.mp member'
    obtain ⟨emission, _, rfl⟩ := List.mem_map.mp closed
    obtain ⟨index, mark | mark⟩ := Stage.fst_of_mem_marked marked
    · rw [mark]
      trivial
    · rw [mark]
      trivial

end Marked

section Log

theorem pair_sublist_of_pairwise {α : Type} {related : α → α → Prop} {list : List α}
    (pairwise : list.Pairwise related) (asymm : ∀ x y, related x y → ¬ related y x)
    {first second : α} (member : first ∈ list) (member' : second ∈ list)
    (before : related first second) :
    [first, second].Sublist list := by
  induction list with
  | nil => cases member
  | cons item rest ih =>
      obtain ⟨above, tail⟩ := List.pairwise_cons.mp pairwise
      rcases List.mem_cons.mp member with rfl | later
      · rcases List.mem_cons.mp member' with rfl | later'
        · exact absurd before (asymm _ _ before)
        · exact (List.singleton_sublist.mpr later').cons_cons first
      · rcases List.mem_cons.mp member' with rfl | later'
        · exact absurd before (asymm _ _ (above first later))
        · exact (ih tail later later').cons item

namespace LiveInvocation

variable {invocation : LiveInvocation}

theorem map_fst_log_perm (invocation : LiveInvocation) :
    (invocation.log.map Prod.fst).Perm (invocation.marked.map Prod.fst) := by
  rw [log, List.map_map]
  exact (chronological_perm _ invocation.marked).map _

/-- The log has the invocation's own records, by time. -/
theorem map_snd_log (invocation : LiveInvocation) :
    invocation.log.map Prod.snd =
      (chronological Emission.time invocation.own).map Emission.record := by
  have ordered : (chronological (fun entry : Mark × Emission => entry.2.time)
      invocation.marked).map Prod.snd = chronological Emission.time invocation.own := by
    rw [← map_snd_marked]
    exact chronological_map (fun _ => rfl) invocation.marked
  rw [log, ← ordered, List.map_map, List.map_map]
  rfl

theorem mem_log_of_mem_marked {mark : Mark} {emission : Emission}
    (member : (mark, emission) ∈ invocation.marked) : (mark, emission.record) ∈ invocation.log :=
  List.mem_map_of_mem (f := fun entry : Mark × Emission => (entry.1, entry.2.record))
    ((chronological_perm _ invocation.marked).mem_iff.mpr member)

theorem exists_mem_marked {mark : Mark} (member : mark ∈ invocation.log.map Prod.fst) :
    ∃ emission, (mark, emission) ∈ invocation.marked := by
  obtain ⟨⟨_, emission⟩, among, rfl⟩ :=
    List.mem_map.mp ((map_fst_log_perm invocation).mem_iff.mp member)
  exact ⟨emission, among⟩

/-- Of two records that the invocation lists in order the first is emitted before
the second unless its time is later. -/
theorem precedes_of_before {earlier later : Mark} {emission emission' : Emission}
    (member : (earlier, emission) ∈ invocation.marked)
    (member' : (later, emission') ∈ invocation.marked) (before : earlier.Before later)
    (time : emission.time ≤ emission'.time) : invocation.Precedes earlier later := by
  have listed : [(earlier, emission), (later, emission')].Sublist invocation.marked :=
    pair_sublist_of_pairwise (List.pairwise_map.mp invocation.pairwise_marked)
      (fun _ _ before => Mark.before_asymm before) member member' before
  have ordered : [(earlier, emission), (later, emission')].Sublist
      (chronological (fun entry => entry.2.time) invocation.marked) :=
    sublist_chronological listed (List.pairwise_pair.mpr time)
  unfold Precedes
  rw [log, List.map_map]
  exact ordered.map fun entry => entry.1

end LiveInvocation

end Log

end Resumable
