import Resumable.Proofs.Live.Settled

/-! # How long a batch takes

The span of a command says how long it takes and what becomes of it. The commands of a batch begin
together, so their spans tell all there is to know of the batch: it takes as long as its longest
command, or up to its first failure if there is one (`Dispatch.batchFinish_of_takes`), and what is
gathered does not depend on the moment at which it began (`Dispatch.batchOutcome_of_takes`).
-/

namespace Resumable

open Json (Value)

/-- How long a command takes, and what becomes of it. -/
structure Span where
  duration : Nat
  outcome : Outcome

namespace Span

def failed (span : Span) : Bool :=
  !span.outcome.toBool

/-- How long commands take that begin together: up to the first failure, or else as long as the
longest of them. -/
def together (spans : List Span) : Nat :=
  ((spans.filter failed).map duration).min?.getD ((spans.map duration).max?.getD 0)

/-- What commands come to that begin together. -/
def gathered (spans : List Span) : Outcome :=
  gather spans.length <|
    (chronological (fun entry => entry.1.duration) spans.zipIdx).map fun entry =>
      ⟨entry.2, entry.1.outcome⟩

end Span

/-- Later by one and the same time, items are in the same order. -/
theorem chronological_add {α : Type} (time : α → Nat) (now : Nat) (items : List α) :
    chronological (fun item => now + time item) items = chronological time items := by
  have inserts (item : α) (items : List α) :
      insertByTime (fun item => now + time item) item items = insertByTime time item items := by
    induction items with
    | nil => rfl
    | cons first rest ih => simp only [insertByTime, Nat.add_le_add_iff_left, ih]
  exact congrArg (fun insert => items.foldr insert []) (funext₂ inserts)

theorem foldl_max_add (now : Nat) (times : List Nat) :
    (times.map (now + ·)).foldl max now = now + times.max?.getD 0 := by
  have shifted : (times.map (now + ·)).foldl max (now + 0) = now + times.foldl max 0 := by
    rw [List.foldl_map]
    exact List.foldl_hom (now + ·) fun latest time => Nat.add_max_add_left now latest time
  rw [Nat.add_zero] at shifted
  rw [shifted, List.foldl_max, Nat.zero_max]

namespace Dispatch

/-- The command was issued at `now`, and had this span. -/
structure Takes (now : Nat) (dispatch : Dispatch) (span : Span) : Prop where
  finish : dispatch.finish = now + span.duration
  ending : dispatch.ending = .settled span.outcome

theorem Takes.unique {now : Nat} {dispatch : Dispatch} {span span' : Span}
    (takes : dispatch.Takes now span) (takes' : dispatch.Takes now span') : span = span' := by
  obtain ⟨duration, outcome⟩ := span
  obtain ⟨duration', outcome'⟩ := span'
  obtain rfl : duration = duration' :=
    Nat.add_left_cancel (takes.finish.symm.trans takes'.finish)
  obtain rfl : outcome = outcome' := Ending.settled.inj (takes.ending.symm.trans takes'.ending)
  rfl

theorem Takes.isSome_failure? {now : Nat} {dispatch : Dispatch} {span : Span}
    (takes : dispatch.Takes now span) : dispatch.failure?.isSome = span.failed := by
  obtain ⟨duration, outcome⟩ := span
  have ending := takes.ending
  cases outcome with
  | error failure =>
      rw [failure?_eq_some_iff.mpr ending]
      rfl
  | ok value =>
      cases fails : dispatch.failure? with
      | none => rfl
      | some failure => cases ending.symm.trans (failure?_eq_some_iff.mp fails)

section Batch

variable {now : Nat} {dispatches : List Dispatch} {spans : List Span}

theorem map_finish_of_takes (takes : List.Forall₂ (Takes now) dispatches spans) :
    dispatches.map Dispatch.finish = (spans.map Span.duration).map (now + ·) := by
  induction takes with
  | nil => rfl
  | cons first _ ih => rw [List.map_cons, List.map_cons, List.map_cons, first.finish, ih]

/-- Those that fail have the spans of those that fail. -/
theorem filter_of_takes (takes : List.Forall₂ (Takes now) dispatches spans) :
    List.Forall₂ (Takes now) (dispatches.filter fun dispatch => dispatch.failure?.isSome)
      (spans.filter Span.failed) := by
  induction takes with
  | nil => exact .nil
  | @cons dispatch span dispatches spans first rest ih =>
      rw [List.filter_cons, List.filter_cons, first.isSome_failure?]
      cases span.failed with
      | true => exact .cons first ih
      | false => exact ih

/-- **When a batch settles.** -/
theorem batchFinish_of_takes (takes : List.Forall₂ (Takes now) dispatches spans) :
    batchFinish now dispatches = now + Span.together spans := by
  have failing := map_finish_of_takes (filter_of_takes takes)
  unfold Span.together
  rcases batchFinish_cases now dispatches with
    ⟨succeed, _, last⟩ | ⟨first, member, failure, fails, _, settled, earliest⟩
  · have nothing : (dispatches.filter fun dispatch => dispatch.failure?.isSome) = [] := by
      rw [List.filter_eq_nil_iff]
      intro dispatch member
      rw [succeed dispatch member]
      exact Bool.false_ne_true
    rw [nothing] at failing
    have none : (spans.filter Span.failed).map Span.duration = [] :=
      List.map_eq_nil_iff.mp failing.symm
    rw [last, none, map_finish_of_takes takes, foldl_max_add]
    rfl
  · have fails' : first.failure?.isSome := by
      rw [fails]
      rfl
    obtain ⟨duration, among, same⟩ := List.mem_map.mp <| failing ▸
      List.mem_map_of_mem (f := Dispatch.finish) (List.mem_filter.mpr ⟨member, fails'⟩)
    have least : ((spans.filter Span.failed).map Span.duration).min? = some duration := by
      refine List.min?_eq_some_iff.mpr ⟨among, ?_⟩
      intro other member'
      obtain ⟨dispatch, filtered, same'⟩ := List.mem_map.mp <| failing.symm ▸
        List.mem_map_of_mem (f := (now + ·)) member'
      obtain ⟨issued, fails'⟩ := List.mem_filter.mp filtered
      have later := earliest dispatch issued (Option.isSome_iff_ne_none.mp fails')
      omega
    rw [settled, least, ← same]
    rfl

/-- What the tasks of a batch report, when it is issued at `now`. -/
theorem filterMap_report?_of_takes (takes : List.Forall₂ (Takes now) dispatches spans) :
    ∀ first, dispatches.map Dispatch.index = List.range' first dispatches.length →
      dispatches.filterMap report? = (spans.zipIdx first).map fun entry =>
        (now + entry.1.duration, ⟨entry.2, entry.1.outcome⟩) := by
  induction takes with
  | nil => exact fun _ _ => rfl
  | @cons dispatch span dispatches spans takes rest ih =>
      intro first indexed
      rw [List.map_cons, List.length_cons, List.range'_succ, List.cons.injEq] at indexed
      have reports : dispatch.report? = some (now + span.duration, ⟨first, span.outcome⟩) := by
        rw [report?, takes.ending, takes.finish, indexed.1]
        rfl
      rw [List.filterMap_cons_some reports, ih _ indexed.2, List.zipIdx_cons, List.map_cons]

/-- **What a batch gathers** does not depend on when it began. -/
theorem batchOutcome_of_takes (takes : List.Forall₂ (Takes now) dispatches spans)
    (indexed : dispatches.map Dispatch.index = List.range dispatches.length) :
    batchOutcome dispatches = Span.gathered spans := by
  rw [List.range_eq_range'] at indexed
  let reported (entry : Span × Nat) : Nat × Report :=
    (now + entry.1.duration, ⟨entry.2, entry.1.outcome⟩)
  have reports : dispatches.filterMap report? = spans.zipIdx.map reported :=
    filterMap_report?_of_takes takes 0 indexed
  have timed : ∀ entry, (reported entry).1 = now + entry.1.duration := fun _ => rfl
  rw [batchOutcome, arrivals, reports, ← chronological_map timed, chronological_add, List.map_map,
    takes.length_eq]
  rfl

end Batch

end Dispatch

end Resumable
