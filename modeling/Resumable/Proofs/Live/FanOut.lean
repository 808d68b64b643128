import Mathlib.Data.List.Induction
import Resumable.Proofs.Live.Gathering

/-! # Batches in every order of completion

The tasks of a batch may end in any order, and they report while the batch is
still gathering. `FanOut` is the batch in flight, with the reports that are on
their way; it returns what `gather` makes of the order in which the tasks end
(`FanOut.returns_gather`). So a batch is right in every order of completion
(`Dispatch.gather_every_order`).
-/

namespace Resumable

open Json (Value)

/-- A batch in flight: its tasks send reports, and the one that issued it receives them. -/
structure FanOut where
  /-- The tasks that have not ended. -/
  running : List Dispatch
  /-- The reports that are sent and not received, the oldest first. -/
  queue : List Report
  values : List (Option Value)
  /-- How many reports are still waited for. -/
  missing : Nat
  returned : Option Outcome

namespace FanOut

open Dispatch (sent?)

/-- The batch when all tasks have started. -/
def start (dispatches : List Dispatch) : FanOut :=
  ⟨dispatches, [], List.replicate dispatches.length none, dispatches.length, none⟩

/-- Something that happens to a batch in flight; the task that ends by it, if one does. -/
inductive Happens : FanOut → Option Dispatch → FanOut → Prop
  /-- A task ends, at any time and in any order; what it reports is sent. -/
  | ends {before after : List Dispatch} {task : Dispatch} {queue : List Report}
      {values : List (Option Value)} {missing : Nat} {returned : Option Outcome} :
      Happens ⟨before ++ task :: after, queue, values, missing, returned⟩ (some task)
        ⟨before ++ after, queue ++ task.sent?.toList, values, missing, returned⟩
  | receives {running : List Dispatch} {index : Nat} {value : Value} {queue : List Report}
      {values : List (Option Value)} {missing : Nat} :
      Happens ⟨running, ⟨index, .ok value⟩ :: queue, values, missing + 1, none⟩ none
        ⟨running, queue, values.set index (some value), missing, none⟩
  | fails {running : List Dispatch} {index : Nat} {failure : Failure} {queue : List Report}
      {values : List (Option Value)} {missing : Nat} :
      Happens ⟨running, ⟨index, .error failure⟩ :: queue, values, missing + 1, none⟩ none
        ⟨running, queue, values, missing, some (.error failure)⟩
  /-- No report is on its way and no task is left to send one. -/
  | closes {values : List (Option Value)} {missing : Nat} :
      Happens ⟨[], [], values, missing + 1, none⟩ none
        ⟨[], [], values, missing, some (.error Gather.incomplete)⟩
  | completes {running : List Dispatch} {queue : List Report} {values : List (Option Value)} :
      Happens ⟨running, queue, values, 0, none⟩ none
        ⟨running, queue, values, 0,
          some (.ok (.array (values.map fun value => value.getD .null)))⟩

/-- The batch may be in this state when the tasks that have ended are `ended`, in their order. -/
inductive History (dispatches : List Dispatch) : (ended : List Dispatch) → FanOut → Prop
  | start : History dispatches [] (start dispatches)
  | step {ended : List Dispatch} {flight next : FanOut} {task : Option Dispatch}
      (history : History dispatches ended flight) (happens : Happens flight task next) :
      History dispatches (ended ++ task.toList) next

/-- What holds of a batch in flight: the tasks are those that ended and those that
run, what is still to be received adds up to what was sent, and what was returned
does not depend on the tasks that run. -/
structure Sound (dispatches ended : List Dispatch) (flight : FanOut) : Prop where
  tasks : (ended ++ flight.running).Perm dispatches
  pending : flight.returned = none → ∀ future,
    Gather.collect flight.values flight.missing (flight.queue ++ future) =
      gather dispatches.length (ended.filterMap sent? ++ future)
  returned : ∀ outcome, flight.returned = some outcome →
    ∀ rest : List Dispatch, rest.Perm flight.running →
      gather dispatches.length ((ended ++ rest).filterMap sent?) = outcome

variable {dispatches ended : List Dispatch} {flight next : FanOut}

theorem filterMap_sent?_append (task : Dispatch) :
    (ended ++ [task]).filterMap sent? = ended.filterMap sent? ++ task.sent?.toList := by
  rw [List.filterMap_append, List.filterMap_cons]
  cases task.sent? <;> rfl

theorem Sound.happens {task : Option Dispatch} (sound : Sound dispatches ended flight)
    (happens : Happens flight task next) : Sound dispatches (ended ++ task.toList) next := by
  have appended (rest : List Dispatch) : (ended ++ rest).filterMap sent? =
      ended.filterMap sent? ++ rest.filterMap sent? := List.filterMap_append
  cases happens with
  | @ends before after task queue values missing returned =>
      have moved : (task :: (before ++ after)).Perm (before ++ task :: after) :=
        List.perm_middle.symm
      refine ⟨?_, ?_, ?_⟩
      · refine List.Perm.trans ?_ sound.tasks
        rw [Option.toList_some, List.append_assoc]
        exact moved.append_left ended
      · intro waits future
        have before := sound.pending waits (task.sent?.toList ++ future)
        rw [Option.toList_some, filterMap_sent?_append, List.append_assoc, List.append_assoc]
        exact before
      · intro outcome returns rest same
        have before := sound.returned outcome returns (task :: rest)
          ((same.cons task).trans moved)
        rwa [Option.toList_some, List.append_assoc]
  | receives =>
      rw [Option.toList_none, List.append_nil]
      exact ⟨sound.tasks, fun _ future => sound.pending rfl future, nofun⟩
  | @fails running index failure queue values missing =>
      rw [Option.toList_none, List.append_nil]
      refine ⟨sound.tasks, nofun, ?_⟩
      intro outcome returns rest same
      cases returns
      rw [appended, ← sound.pending rfl]
      rfl
  | closes =>
      rw [Option.toList_none, List.append_nil]
      refine ⟨sound.tasks, nofun, ?_⟩
      intro outcome returns rest same
      cases returns
      rw [same.eq_nil, appended, ← sound.pending rfl]
      rfl
  | completes =>
      rw [Option.toList_none, List.append_nil]
      refine ⟨sound.tasks, nofun, ?_⟩
      intro outcome returns rest same
      cases returns
      rw [appended, ← sound.pending rfl]
      rw [Gather.collect]

theorem History.sound (history : History dispatches ended flight) :
    Sound dispatches ended flight := by
  induction history with
  | start => exact ⟨.refl _, fun _ _ => rfl, nofun⟩
  | step _ happens ih => exact ih.happens happens

/-- The tasks of a batch may end in any order before anything is received. -/
theorem exists_history_of_ends {rest : List Dispatch} (ends : (ended ++ rest).Perm dispatches) :
    ∃ running, (ended ++ running).Perm dispatches ∧
      History dispatches ended ⟨running, ended.filterMap sent?,
        List.replicate dispatches.length none, dispatches.length, none⟩ := by
  induction ended using List.reverseRecOn generalizing rest with
  | nil => exact ⟨dispatches, .refl _, .start⟩
  | append_singleton ended task ih =>
      rw [List.append_assoc] at ends
      obtain ⟨running, tasks, history⟩ := ih ends
      have remaining : ([task] ++ rest).Perm running :=
        (List.perm_append_left_iff ended).mp (ends.trans tasks.symm)
      obtain ⟨before, after, rfl⟩ :=
        List.append_of_mem (remaining.mem_iff.mp List.mem_cons_self)
      refine ⟨before ++ after, ?_, ?_⟩
      · refine List.Perm.trans ?_ tasks
        rw [List.append_assoc]
        have moved : (task :: (before ++ after)).Perm (before ++ task :: after) :=
          List.perm_middle.symm
        exact moved.append_left ended
      · rw [filterMap_sent?_append]
        exact history.step .ends

/-- When all tasks have ended the batch receives what was sent and returns. -/
theorem exists_history_of_sent {queue : List Report} {values : List (Option Value)}
    {missing : Nat} (history : History dispatches ended ⟨[], queue, values, missing, none⟩) :
    ∃ flight, History dispatches ended flight ∧
      flight.returned = some (Gather.collect values missing queue) := by
  induction queue generalizing values missing with
  | nil =>
      cases missing with
      | zero => exact ⟨_, List.append_nil ended ▸ history.step .completes, rfl⟩
      | succ missing => exact ⟨_, List.append_nil ended ▸ history.step .closes, rfl⟩
  | cons report rest ih =>
      obtain ⟨index, outcome⟩ := report
      cases missing with
      | zero => exact ⟨_, List.append_nil ended ▸ history.step .completes, rfl⟩
      | succ missing =>
          cases outcome with
          | ok value =>
              have received := history.step .receives
              rw [Option.toList_none, List.append_nil] at received
              exact ih received
          | error failure => exact ⟨_, List.append_nil ended ▸ history.step .fails, rfl⟩

/-- What a batch whose tasks end in `order` returns. -/
structure Returns (dispatches order : List Dispatch) (outcome : Outcome) : Prop where
  /-- It does return. -/
  reached : ∃ flight, History dispatches order flight ∧ flight.returned = some outcome
  /-- It returns nothing else, however far the tasks and the reports have got by then. -/
  unique : ∀ ended flight result, ended <+: order → History dispatches ended flight →
    flight.returned = some result → result = outcome

/-- **A batch in flight returns what `gather` makes of the order in which its tasks
end**, whenever the reports are received. -/
theorem returns_gather {order : List Dispatch} (ends : order.Perm dispatches) :
    Returns dispatches order (gather dispatches.length (order.filterMap sent?)) := by
  refine ⟨?_, ?_⟩
  · have all : (order ++ []).Perm dispatches := by rwa [List.append_nil]
    obtain ⟨running, tasks, history⟩ := exists_history_of_ends all
    have none_left : running = [] := by
      have remaining := (List.perm_append_left_iff order).mp (all.trans tasks.symm)
      exact remaining.symm.eq_nil
    subst none_left
    exact exists_history_of_sent history
  · rintro ended flight result ⟨rest, rfl⟩ history returned
    have sound := history.sound
    have remaining : rest.Perm flight.running :=
      (List.perm_append_left_iff ended).mp (ends.trans sound.tasks.symm)
    exact (sound.returned result returned rest remaining).symm

end FanOut

namespace Dispatch

/-- **Fan-out is right in every order of completion.** However the tasks of a
batch end, the batch in flight returns what `gather` makes of their order. It
succeeds exactly if all tasks report values, and then with these values by
position; else it fails with the failure that is reported first, or as
incomplete if no failure is. If at most one command fails, the order makes no
difference. -/
theorem gather_every_order {handlers : Handlers} {runtime : Runtime} {invoke : Site → Invoke}
    {site : Site} {place : Place} {step now : Nat} {commands : List Command}
    {dispatches : List Dispatch}
    (issued : all handlers runtime invoke site place commands step now = some dispatches)
    {order : List Dispatch} (ends : order.Perm dispatches) :
    let outcome := gather commands.length (order.filterMap sent?)
    dispatches.map Dispatch.command = commands ∧
      FanOut.Returns dispatches order outcome ∧ Gathers dispatches order outcome ∧
      ((dispatches.filterMap failure?).length ≤ 1 →
        ∀ other : List Dispatch, other.Perm dispatches →
          gather commands.length (other.filterMap sent?) = outcome) := by
  have length := (all_eq_some issued).1
  have indexed := map_index_of_all issued
  have gathers := gathers_of_order indexed ends
  rw [← length]
  refine ⟨?_, FanOut.returns_gather ends, gathers, ?_⟩
  · apply List.ext_getElem?
    intro i
    rw [List.getElem?_map]
    cases found : dispatches[i]? with
    | none =>
        have beyond := List.getElem?_eq_none_iff.mp found
        rw [List.getElem?_eq_none (by omega)]
        rfl
    | some dispatch => exact (index_of_getElem? issued found).1.symm
  · intro single other ends'
    apply gathers.outcome_unique (gathers_of_order indexed ends') ends
    rw [findSome?_failure?_of_perm ends single, findSome?_failure?_of_perm ends' single]

/-- Of three tasks a hook unwinds the first and the others fail: the batch fails
with the one that ends first. -/
theorem gather_both_ways :
    let hook : Hook := ⟨[.commandComplete], fun record =>
      if record.event.command?.map Command.type = some "get" then .panic "bad hook" else .heard⟩
    let handlers := (Handlers.empty.insert "get" fun _ _ => .settle (.ok .null)).insert "put"
      fun _ _ => .settle (.error ⟨.handler, "full"⟩)
    ∃ dispatches,
      all handlers default (fun _ _ _ _ _ => none) (.root ⟨none, none, ⟨[hook]⟩⟩ ⟨"run"⟩) []
        [.ofType "get", .ofType "put", .ofType "post"] 0 0 = some dispatches ∧
      gather 3 (dispatches.filterMap sent?) = .error ⟨.handler, "full"⟩ ∧
      gather 3 (dispatches.reverse.filterMap sent?) = .error (.noHandler "post") := by
  intro hook handlers
  have issued : all handlers default (fun _ _ _ _ _ => none)
    (.root ⟨none, none, ⟨[hook]⟩⟩ ⟨"run"⟩) [] [.ofType "get", .ofType "put", .ofType "post"] 0 0 =
      some _ := rfl
  refine ⟨_, issued, ?_, ?_⟩
  · obtain ⟨_, _, gathers, _⟩ := gather_every_order issued (.refl _)
    exact gathers.failed _ rfl
  · obtain ⟨_, _, gathers, _⟩ := gather_every_order issued (List.reverse_perm _)
    exact gathers.failed _ rfl

end Dispatch

end Resumable
