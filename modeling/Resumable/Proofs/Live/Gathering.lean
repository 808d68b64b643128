import Resumable.Live.Dispatch
import Resumable.Proofs.Traversal

/-! # What a batch makes of its reports

The commands of a batch have a task each. A task that settles reports its
outcome, and one that a hook unwinds ends without a report. In whatever order the
tasks end, gathering the reports gives the array of all values by position, the
failure that was reported first, or the failure of an incomplete batch
(`Dispatch.gathers_of_order`). Only the first failure depends on the order
(`Dispatch.Gathers.outcome_unique`).
-/

namespace Resumable

open Json (Value)

/-- The failure that a report brings. -/
def Report.failure? (report : Report) : Option Failure :=
  match report.outcome with
  | .ok _ => none
  | .error failure => some failure

namespace Gather

/-- Puts the value of a report in its slot. -/
def place (values : List (Option Value)) (report : Report) : List (Option Value) :=
  match report.outcome with
  | .ok value => values.set report.index (some value)
  | .error _ => values

/-- **What the receiving loop returns.** With no more reports than missing values
the loop meets the first failure, ends with all values, or runs out of reports. -/
theorem collect_eq {reports : List Report} {values : List (Option Value)} {missing : Nat}
    (short : reports.length ≤ missing) :
    collect values missing reports =
      match reports.findSome? Report.failure? with
      | some failure => .error failure
      | none =>
        if reports.length = missing then
          .ok (.array ((reports.foldl place values).map fun value => value.getD .null))
        else .error incomplete := by
  induction reports generalizing values missing with
  | nil =>
      cases missing with
      | zero => rfl
      | succ missing => rfl
  | cons report rest ih =>
      obtain ⟨index, outcome⟩ := report
      cases missing with
      | zero => exact absurd short (Nat.not_succ_le_zero _)
      | succ missing =>
          have remaining : rest.length ≤ missing := Nat.le_of_succ_le_succ short
          cases outcome with
          | error failure => rfl
          | ok value =>
              rw [collect, ih remaining]
              simp only [List.findSome?_cons, Report.failure?, List.length_cons,
                Nat.add_right_cancel_iff, List.foldl_cons, place]

theorem length_foldl_place (reports : List Report) (values : List (Option Value)) :
    (reports.foldl place values).length = values.length := by
  induction reports generalizing values with
  | nil => rfl
  | cons report rest ih =>
      rw [List.foldl_cons, ih]
      unfold place
      split
      · exact List.length_set
      · rfl

/-- Reports for other slots leave a slot as it is. -/
theorem getElem?_foldl_place_of_not_mem {reports : List Report} {values : List (Option Value)}
    {index : Nat} (other : index ∉ reports.map Report.index) :
    (reports.foldl place values)[index]? = values[index]? := by
  induction reports generalizing values with
  | nil => rfl
  | cons report rest ih =>
      rw [List.map_cons, List.mem_cons, not_or] at other
      rw [List.foldl_cons, ih other.2]
      unfold place
      split
      · exact List.getElem?_set_ne (Ne.symm other.1)
      · rfl

/-- Of reports for different slots each fills its own. -/
theorem getElem?_foldl_place {reports : List Report} {values : List (Option Value)}
    (distinct : (reports.map Report.index).Nodup) {index : Nat} {value : Value}
    (reported : ⟨index, .ok value⟩ ∈ reports) (slot : index < values.length) :
    (reports.foldl place values)[index]? = some (some value) := by
  induction reports generalizing values with
  | nil => cases reported
  | cons report rest ih =>
      rw [List.map_cons, List.nodup_cons] at distinct
      rw [List.foldl_cons]
      rcases List.mem_cons.mp reported with rfl | later
      · rw [getElem?_foldl_place_of_not_mem distinct.1]
        exact List.getElem?_set_self slot
      · apply ih distinct.2 later
        have kept := length_foldl_place [report] values
        rw [List.foldl_cons, List.foldl_nil] at kept
        rwa [kept]

end Gather

namespace Dispatch

/-- What the task of a command reports when it ends. -/
def sent? (dispatch : Dispatch) : Option Report :=
  dispatch.report?.map Prod.snd

/-- The failure that the task of a command reports. -/
def failure? (dispatch : Dispatch) : Option Failure :=
  dispatch.sent?.bind Report.failure?

/-- The task of a command ended without a report. -/
def Lost (dispatch : Dispatch) : Prop :=
  ∃ message, dispatch.ending = .unwound message

theorem sent?_eq_some_iff {dispatch : Dispatch} {report : Report} :
    dispatch.sent? = some report ↔
      dispatch.ending = .settled report.outcome ∧ dispatch.index = report.index := by
  obtain ⟨index, outcome⟩ := report
  unfold sent? report?
  cases dispatch.ending with
  | settled result => simp [Ending.outcome?, and_comm]
  | halted error => exact error.elim
  | unwound message => simp [Ending.outcome?]

theorem sent?_eq_none_iff {dispatch : Dispatch} : dispatch.sent? = none ↔ dispatch.Lost := by
  unfold sent? report? Lost
  cases dispatch.ending with
  | settled result => simp [Ending.outcome?]
  | halted error => exact error.elim
  | unwound message => simp [Ending.outcome?]

theorem failure?_eq_some_iff {dispatch : Dispatch} {failure : Failure} :
    dispatch.failure? = some failure ↔ dispatch.ending = .settled (.error failure) := by
  unfold failure? sent? report? Report.failure?
  cases dispatch.ending with
  | settled result => cases result <;> simp [Ending.outcome?]
  | halted error => exact error.elim
  | unwound message => simp [Ending.outcome?]

section Issued

variable {handlers : Handlers} {runtime : Runtime} {invoke : Site → Invoke} {site : Site}
  {place : Place} {step now : Nat}

/-- Either a hook panics on the first record of a command, or the command's task is played and the
command settles with what the task turns out to, unless a hook panics on its second record. -/
theorem one_cases {command : Command} {index : Nat} {dispatch : Dispatch}
    (issued : one handlers runtime invoke site place command step index now = some dispatch) :
    let here := place ++ [step, index]
    let start := Instant.ofMillis now
    let opened := site.emit now
      (.command command (UInt64.ofNat step) (UInt64.ofNat index) start)
    (∃ message, opened.panic? = some message ∧ dispatch =
      ⟨command, step, index, here, opened, [], [], none, none, now, .unwound message⟩) ∨
    ∃ played, handle handlers runtime.draw invoke site here command now = some played ∧
      let outcome := taskOutcome runtime here played.result
      let closed := site.emit played.finish
        (.commandComplete command (UInt64.ofNat step) (UInt64.ofNat index) start
          (.ofOutcome start (Instant.ofMillis played.finish) outcome))
      dispatch = ⟨command, step, index, here, opened, played.calls, played.draws, played.died,
        some closed, played.finish, closed.panic?.elim (.settled outcome) .unwound⟩ := by
  intro here start opened
  unfold one at issued
  dsimp only at issued
  cases panics : opened.panic? with
  | some message =>
      rw [show Emission.panic? (site.emit now _) = some message from panics] at issued
      exact .inl ⟨message, rfl, (Option.some.inj issued).symm⟩
  | none =>
      rw [show Emission.panic? (site.emit now _) = none from panics] at issued
      simp only [Option.bind_eq_bind, Option.bind_eq_some_iff, Option.pure_def,
        Option.some.injEq] at issued
      obtain ⟨played, handled, rfl⟩ := issued
      refine .inr ⟨played, handled, ?_⟩
      intro outcome closed
      cases closed.panic? with
      | some message => rfl
      | none => rfl

/-- A dispatch knows its command, its step and its position. -/
theorem one_eq_some {command : Command} {index : Nat} {dispatch : Dispatch}
    (issued : one handlers runtime invoke site place command step index now = some dispatch) :
    dispatch.command = command ∧ dispatch.step = step ∧ dispatch.index = index := by
  rcases one_cases issued with ⟨message, _, rfl⟩ | ⟨played, _, rfl⟩
  · exact ⟨rfl, rfl, rfl⟩
  · exact ⟨rfl, rfl, rfl⟩

/-- The dispatches of a batch are those of its commands, by position. -/
theorem all_eq_some {commands : List Command} {dispatches : List Dispatch}
    (issued : all handlers runtime invoke site place commands step now = some dispatches) :
    dispatches.length = commands.length ∧
      ∀ i, dispatches[i]? = commands[i]?.bind fun command =>
        one handlers runtime invoke site place command step i now := by
  obtain ⟨length, each⟩ := getElem?_of_mapM issued
  refine ⟨by rw [length, List.length_zipIdx], ?_⟩
  intro i
  rw [each i, List.getElem?_zipIdx, Option.bind_map, Nat.zero_add]
  rfl

theorem exists_all {commands : List Command}
    (each : ∀ (i : Nat) (command : Command), commands[i]? = some command → ∃ dispatch,
      one handlers runtime invoke site place command step i now = some dispatch) :
    ∃ dispatches,
      all handlers runtime invoke site place commands step now = some dispatches :=
  exists_mapM_eq_some fun entry member =>
    each entry.2 entry.1 (List.mem_zipIdx_iff_getElem?.mp member)

/-- A batch's dispatch is that of the command at its position. -/
theorem exists_one_of_getElem? {commands : List Command} {dispatches : List Dispatch}
    (issued : all handlers runtime invoke site place commands step now = some dispatches)
    {i : Nat} {dispatch : Dispatch} (found : dispatches[i]? = some dispatch) :
    ∃ command, commands[i]? = some command ∧
      one handlers runtime invoke site place command step i now = some dispatch := by
  rw [(all_eq_some issued).2 i] at found
  exact Option.bind_eq_some_iff.mp found

/-- Every command of a batch is dispatched at its position. -/
theorem exists_getElem?_of_all {commands : List Command} {dispatches : List Dispatch}
    (issued : all handlers runtime invoke site place commands step now = some dispatches)
    {i : Nat} {command : Command} (commanded : commands[i]? = some command) :
    ∃ dispatch, dispatches[i]? = some dispatch ∧
      one handlers runtime invoke site place command step i now = some dispatch := by
  obtain ⟨length, each⟩ := all_eq_some issued
  obtain ⟨inside, _⟩ := List.getElem?_eq_some_iff.mp commanded
  rw [← length] at inside
  have found := List.getElem?_eq_getElem inside
  have made := each i
  rw [found, commanded] at made
  exact ⟨_, found, made.symm⟩

theorem index_of_getElem? {commands : List Command} {dispatches : List Dispatch}
    (issued : all handlers runtime invoke site place commands step now = some dispatches)
    {i : Nat} {dispatch : Dispatch} (found : dispatches[i]? = some dispatch) :
    commands[i]? = some dispatch.command ∧ dispatch.index = i := by
  obtain ⟨command, commanded, made⟩ := exists_one_of_getElem? issued found
  obtain ⟨rfl, _, index⟩ := one_eq_some made
  exact ⟨commanded, index⟩

/-- The dispatches of a suspension are those of its commands. -/
theorem exists_one_of_suspension {suspended : Suspension}
    {performed : Performance Unit (List Dispatch) Empty}
    (performs : suspension handlers runtime invoke site place suspended step 0 now =
      some performed) {dispatch : Dispatch} (member : dispatch ∈ performed.evidence) :
    ∃ command index,
      one handlers runtime invoke site place command step index now = some dispatch := by
  cases suspended with
  | one command =>
      simp only [suspension, Option.bind_eq_bind, Option.bind_eq_some_iff, Option.pure_def,
        Option.some.injEq] at performs
      obtain ⟨issued, one, rfl⟩ := performs
      obtain rfl := List.mem_singleton.mp member
      exact ⟨command, 0, one⟩
  | all commands =>
      simp only [suspension, Option.bind_eq_bind, Option.bind_eq_some_iff, Option.pure_def,
        Option.some.injEq] at performs
      obtain ⟨dispatches, issued, rfl⟩ := performs
      obtain ⟨i, found⟩ := List.mem_iff_getElem?.mp member
      obtain ⟨command, _, one⟩ := exists_one_of_getElem? issued found
      exact ⟨command, i, one⟩

theorem map_index_of_all {commands : List Command} {dispatches : List Dispatch}
    (issued : all handlers runtime invoke site place commands step now = some dispatches) :
    dispatches.map Dispatch.index = List.range dispatches.length := by
  apply List.ext_getElem?
  intro i
  rw [List.getElem?_map]
  cases found : dispatches[i]? with
  | none =>
      have beyond := List.getElem?_eq_none_iff.mp found
      rw [List.getElem?_eq_none (by rwa [List.length_range])]
      rfl
  | some dispatch =>
      obtain ⟨inside, _⟩ := List.getElem?_eq_some_iff.mp found
      rw [List.getElem?_range inside, Option.map_some, (index_of_getElem? issued found).2]

end Issued

section Order

theorem findSome?_filterMap_sent? (order : List Dispatch) :
    (order.filterMap sent?).findSome? Report.failure? = order.findSome? failure? := by
  induction order with
  | nil => rfl
  | cons dispatch rest ih =>
      rw [List.findSome?_cons, List.filterMap_cons]
      cases sent : dispatch.sent? with
      | none => simp only [failure?, sent, Option.bind_none, ih]
      | some report => simp only [failure?, sent, Option.bind_some, List.findSome?_cons, ih]

theorem map_index_filterMap_sent? (order : List Dispatch) :
    ((order.filterMap sent?).map Report.index).Sublist (order.map Dispatch.index) := by
  induction order with
  | nil => exact .slnil
  | cons dispatch rest ih =>
      rw [List.filterMap_cons]
      cases sent : dispatch.sent? with
      | none => exact ih.cons _
      | some report =>
          rw [List.map_cons, List.map_cons, (sent?_eq_some_iff.mp sent).2]
          exact ih.cons_cons _

/-- What becomes of the batch of `dispatches` when its tasks end in `order`. -/
structure Gathers (dispatches order : List Dispatch) (outcome : Outcome) : Prop where
  /-- The batch succeeds exactly if every task reports a value. -/
  ok_iff : (∃ value, outcome = .ok value) ↔
    ∀ dispatch ∈ dispatches, ∃ value, dispatch.ending = .settled (.ok value)
  /-- A batch that succeeds gives the value of every command at its position. -/
  values : ∀ value, outcome = .ok value →
    ∃ values, value = .array values ∧ values.length = dispatches.length ∧
      ∀ (i : Nat) (dispatch : Dispatch), dispatches[i]? = some dispatch →
        ∃ element, dispatch.ending = .settled (.ok element) ∧ values[i]? = some element
  /-- The failure that is reported first is the batch's failure. -/
  failed : ∀ failure, order.findSome? failure? = some failure → outcome = .error failure
  /-- A report that never comes fails a batch in which nothing else does. -/
  lost : order.findSome? failure? = none → (∃ dispatch ∈ dispatches, dispatch.Lost) →
    outcome = .error Gather.incomplete

variable {dispatches order : List Dispatch}

theorem length_filterMap_sent? (ends : order.Perm dispatches) :
    (order.filterMap sent?).length ≤ dispatches.length := by
  rw [← ends.length_eq]
  exact List.length_filterMap_le _ _

theorem length_filterMap_sent?_eq_iff (ends : order.Perm dispatches) :
    (order.filterMap sent?).length = dispatches.length ↔
      ∀ dispatch ∈ dispatches, ¬ dispatch.Lost := by
  rw [← ends.length_eq, List.filterMap_length_eq_length]
  constructor
  · intro all dispatch member lost
    have reports := all dispatch (ends.mem_iff.mpr member)
    rw [sent?_eq_none_iff.mpr lost] at reports
    cases reports
  · intro kept dispatch member
    rw [Option.isSome_iff_ne_none]
    intro unsent
    exact kept dispatch (ends.mem_iff.mp member) (sent?_eq_none_iff.mp unsent)

/-- The outcome of a batch whose tasks end in `order`, by what they report. -/
theorem gather_of_order (ends : order.Perm dispatches) :
    gather dispatches.length (order.filterMap sent?) =
      match order.findSome? failure? with
      | some failure => .error failure
      | none =>
        if (order.filterMap sent?).length = dispatches.length then
          .ok (.array (((order.filterMap sent?).foldl Gather.place
            (List.replicate dispatches.length none)).map fun value => value.getD .null))
        else .error Gather.incomplete := by
  rw [gather, Gather.collect_eq (length_filterMap_sent? ends), findSome?_filterMap_sent?]

/-- The slots of a batch in which nothing fails and nothing is lost hold its values. -/
theorem getElem?_slots (indexed : dispatches.map Dispatch.index = List.range dispatches.length)
    (ends : order.Perm dispatches) {i : Nat} {dispatch : Dispatch} {value : Value}
    (found : dispatches[i]? = some dispatch) (settled : dispatch.ending = .settled (.ok value)) :
    ((order.filterMap sent?).foldl Gather.place
      (List.replicate dispatches.length none))[i]? = some (some value) := by
  obtain ⟨inside, _⟩ := List.getElem?_eq_some_iff.mp found
  have index : dispatch.index = i := by
    have mapped := congrArg (fun indices => indices[i]?) indexed
    simp only [List.getElem?_map, found, Option.map_some, List.getElem?_range inside,
      Option.some.injEq] at mapped
    exact mapped
  have distinct : ((order.filterMap sent?).map Report.index).Nodup := by
    apply List.Nodup.sublist (map_index_filterMap_sent? order)
    rw [(ends.map Dispatch.index).nodup_iff, indexed]
    exact List.nodup_range
  refine Gather.getElem?_foldl_place distinct ?_ (by rwa [List.length_replicate])
  refine List.mem_filterMap.mpr ⟨dispatch, ends.mem_iff.mpr (List.mem_of_getElem? found), ?_⟩
  exact sent?_eq_some_iff.mpr ⟨settled, index⟩

/-- A task that is not lost and reports no failure reports a value. -/
theorem settled_ok_of_kept {dispatch : Dispatch} (kept : ¬ dispatch.Lost)
    (succeeds : dispatch.failure? = none) : ∃ value, dispatch.ending = .settled (.ok value) := by
  cases ending : dispatch.ending with
  | settled outcome =>
      cases outcome with
      | ok value => exact ⟨value, rfl⟩
      | error failure =>
          rw [failure?_eq_some_iff.mpr ending] at succeeds
          cases succeeds
  | halted error => exact error.elim
  | unwound message => exact absurd ⟨message, ending⟩ kept

theorem gathers_of_order (indexed : dispatches.map Dispatch.index = List.range dispatches.length)
    (ends : order.Perm dispatches) :
    Gathers dispatches order (gather dispatches.length (order.filterMap sent?)) := by
  have outcome := gather_of_order ends
  have kept := length_filterMap_sent?_eq_iff ends
  cases failing : order.findSome? failure? with
  | some failure =>
      rw [failing] at outcome
      obtain ⟨dispatch, member, fails⟩ := List.exists_of_findSome?_eq_some failing
      refine ⟨?_, ?_, ?_, ?_⟩
      · rw [outcome]
        refine ⟨nofun, ?_⟩
        intro all
        obtain ⟨value, settled⟩ := all dispatch (ends.mem_iff.mp member)
        rw [failure?_eq_some_iff, settled] at fails
        cases fails
      · rw [outcome]
        exact nofun
      · intro first same
        rw [outcome, Option.some.inj (failing.symm.trans same)]
      · intro succeeds
        rw [failing] at succeeds
        cases succeeds
  | none =>
      rw [failing] at outcome
      have succeeds : ∀ dispatch ∈ dispatches, dispatch.failure? = none := fun dispatch member =>
        List.findSome?_eq_none_iff.mp failing dispatch (ends.mem_iff.mpr member)
      by_cases full : (order.filterMap sent?).length = dispatches.length
      · simp only [full, ↓reduceIte] at outcome
        have settled : ∀ dispatch ∈ dispatches,
            ∃ value, dispatch.ending = .settled (.ok value) := fun dispatch member =>
          settled_ok_of_kept (kept.mp full dispatch member) (succeeds dispatch member)
        refine ⟨?_, ?_, ?_, ?_⟩
        · exact ⟨fun _ => settled, fun _ => ⟨_, outcome⟩⟩
        · intro value same
          rw [outcome] at same
          cases same
          refine ⟨_, rfl, ?_, ?_⟩
          · rw [List.length_map, Gather.length_foldl_place, List.length_replicate]
          · intro i dispatch found
            obtain ⟨element, ending⟩ := settled dispatch (List.mem_of_getElem? found)
            refine ⟨element, ending, ?_⟩
            rw [List.getElem?_map, getElem?_slots indexed ends found ending]
            rfl
        · intro failure same
          rw [failing] at same
          cases same
        · rintro _ ⟨dispatch, member, lost⟩
          exact absurd lost (kept.mp full dispatch member)
      · simp only [full, ↓reduceIte] at outcome
        refine ⟨?_, ?_, ?_, fun _ _ => outcome⟩
        · rw [outcome]
          refine ⟨nofun, fun all => absurd (kept.mpr ?_) full⟩
          intro dispatch member lost
          obtain ⟨value, settled⟩ := all dispatch member
          obtain ⟨message, unwound⟩ := lost
          rw [settled] at unwound
          cases unwound
        · rw [outcome]
          exact nofun
        · intro failure same
          rw [failing] at same
          cases same

/-- What `Gathers` says determines the outcome from the failure reported first. -/
theorem Gathers.outcome_unique {other : List Dispatch} {outcome outcome' : Outcome}
    (gathers : Gathers dispatches order outcome) (gathers' : Gathers dispatches other outcome')
    (ends : order.Perm dispatches)
    (same : other.findSome? failure? = order.findSome? failure?) : outcome' = outcome := by
  cases failing : order.findSome? failure? with
  | some failure => rw [gathers.failed failure failing, gathers'.failed failure (same ▸ failing)]
  | none =>
      by_cases lost : ∃ dispatch ∈ dispatches, dispatch.Lost
      · rw [gathers.lost failing lost, gathers'.lost (same ▸ failing) lost]
      · have settled : ∀ dispatch ∈ dispatches,
            ∃ value, dispatch.ending = .settled (.ok value) := by
          intro dispatch member
          apply settled_ok_of_kept (fun gone => lost ⟨dispatch, member, gone⟩)
          exact List.findSome?_eq_none_iff.mp failing dispatch (ends.mem_iff.mpr member)
        obtain ⟨value, rfl⟩ := gathers.ok_iff.mpr settled
        obtain ⟨value', rfl⟩ := gathers'.ok_iff.mpr settled
        obtain ⟨values, rfl, length, each⟩ := gathers.values value rfl
        obtain ⟨values', rfl, length', each'⟩ := gathers'.values value' rfl
        have equal : values' = values := by
          apply List.ext_getElem?
          intro i
          cases found : dispatches[i]? with
          | none =>
              have beyond := List.getElem?_eq_none_iff.mp found
              rw [List.getElem?_eq_none (by omega), List.getElem?_eq_none (by omega)]
          | some dispatch =>
              obtain ⟨element, ending, here⟩ := each i dispatch found
              obtain ⟨element', ending', here'⟩ := each' i dispatch found
              rw [ending] at ending'
              cases ending'
              rw [here, here']
        rw [equal]

/-- With at most one failure the failure reported first is the same for every order. -/
theorem findSome?_failure?_of_perm (ends : order.Perm dispatches)
    (single : (dispatches.filterMap failure?).length ≤ 1) :
    order.findSome? failure? = dispatches.findSome? failure? := by
  have failures := ends.filterMap failure?
  rw [← List.head?_filterMap, ← List.head?_filterMap]
  cases fails : dispatches.filterMap failure? with
  | nil =>
      rw [fails] at failures
      rw [failures.eq_nil]
  | cons failure rest =>
      rw [fails] at failures single
      obtain rfl : rest = [] := List.eq_nil_of_length_eq_zero (by simpa using single)
      rw [List.perm_singleton.mp failures]

end Order

end Dispatch

end Resumable
