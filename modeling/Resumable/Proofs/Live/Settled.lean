import Resumable.Live.Run
import Resumable.Proofs.Course
import Resumable.Proofs.Live.Gathering
import Resumable.Proofs.Live.Tree

/-! # Commands that are given an outcome

Unless a hook panics on one of its records, a command that is issued is given the
outcome of its handler's task (`Dispatch.settles_of_one`). A batch whose commands are all given
an outcome settles with its last command if it succeeds, and with the first that
fails if it fails (`Dispatch.settlesAt_batchFinish`).
-/

namespace Resumable

open Json (Value)

/-- What is made of procedures has a property and does not end before it begins,
unless a hook panics. -/
def Invoke.Makes (invoke : Invoke) (holds : LiveInvocation → Prop) : Prop :=
  ∀ place procedure args now call, invoke place procedure args now = some call → call.Calm →
    now ≤ call.finish ∧ holds call

namespace Activity

section Played

variable {numbering : Numbering} {invoke : Invoke} {place : Place} {position now : Nat}
  {played : Played}

theorem exists_play_of_draw {counter : Nat} {next : Nat → Activity}
    (plays : (draw counter next).play numbering invoke place position now = some played) :
    let here := place ++ [position]
    ∃ rest, (next (numbering here)).play numbering invoke place (position + 1) now = some rest ∧
      played = { rest with draws := ⟨here, counter, now⟩ :: rest.draws } := by
  simp only [play, Option.bind_eq_bind, Option.bind_eq_some_iff, Option.pure_def,
    Option.some.injEq] at plays
  obtain ⟨rest, further, same⟩ := plays
  exact ⟨rest, further, same.symm⟩

/-- An activity that calls a procedure goes on with the outcome of the invocation or panics with
it. -/
theorem exists_invocation_of_call {procedure : Procedure} {args : Value} {next : Outcome → Activity}
    (plays : (call procedure args next).play numbering invoke place position now = some played) :
    ∃ first, invoke (place ++ [position]) procedure args now = some first ∧
      ((∃ outcome rest, first.ending = .settled outcome ∧
          (next outcome).play numbering invoke place (position + 1) first.finish = some rest ∧
          played = { rest with calls := first :: rest.calls, draws := first.draws ++ rest.draws }) ∨
        ∃ message, first.ending = .unwound message ∧
          played = ⟨[first], first.draws, first.finish, .error message⟩) := by
  simp only [play, Option.bind_eq_bind, Option.bind_eq_some_iff] at plays
  obtain ⟨first, invoked, plays⟩ := plays
  refine ⟨first, invoked, ?_⟩
  cases ending : first.ending with
  | settled outcome =>
      simp only [ending, Option.pure_def, Option.bind_eq_some_iff, Option.some.injEq] at plays
      obtain ⟨rest, further, same⟩ := plays
      exact .inl ⟨outcome, rest, rfl, further, same.symm⟩
  | halted error => exact error.elim
  | unwound message =>
      simp only [ending, Option.pure_def, Option.some.injEq] at plays
      exact .inr ⟨message, rfl, plays.symm⟩

/-- All calls of an activity are invoked. -/
theorem exists_invoke_of_play {activity : Activity}
    (plays : activity.play numbering invoke place position now = some played) :
    ∀ call ∈ played.calls, ∃ place procedure args now,
      invoke place procedure args now = some call := by
  induction activity generalizing position now played with
  | settle outcome =>
      cases plays
      exact List.forall_mem_nil _
  | panic message =>
      cases plays
      exact List.forall_mem_nil _
  | sleep ms next ih => exact ih plays
  | draw counter next ih =>
      obtain ⟨rest, further, rfl⟩ := exists_play_of_draw plays
      intro call member
      exact ih _ further call member
  | call procedure args next ih =>
      intro call member
      obtain ⟨first, invoked, ⟨outcome, rest, _, further, rfl⟩ | ⟨message, _, rfl⟩⟩ :=
        exists_invocation_of_call plays
      · rcases List.mem_cons.mp member with rfl | member
        · exact ⟨_, _, _, _, invoked⟩
        · exact ih _ further call member
      · obtain rfl := List.mem_singleton.mp member
        exact ⟨_, _, _, _, invoked⟩

/-- Time does not go back while an activity is played. -/
theorem le_finish_of_play {holds : LiveInvocation → Prop} (makes : invoke.Makes holds)
    {activity : Activity}
    (plays : activity.play numbering invoke place position now = some played)
    (calm : ∀ call ∈ played.calls, call.Calm) : now ≤ played.finish := by
  induction activity generalizing position now played with
  | settle outcome =>
      cases plays
      exact Nat.le_refl _
  | panic message =>
      cases plays
      exact Nat.le_refl _
  | sleep ms next ih => exact Nat.le_trans (Nat.le_add_right _ _) (ih plays calm)
  | draw counter next ih =>
      obtain ⟨rest, further, rfl⟩ := exists_play_of_draw plays
      have later : now ≤ rest.finish := ih _ further calm
      exact later
  | call procedure args next ih =>
      obtain ⟨first, invoked, ⟨outcome, rest, _, further, rfl⟩ | ⟨message, _, rfl⟩⟩ :=
        exists_invocation_of_call plays
      · obtain ⟨begins, _⟩ := makes _ _ _ _ _ invoked (calm first List.mem_cons_self)
        have later : first.finish ≤ rest.finish := ih _ further fun call member =>
          calm call (List.mem_cons_of_mem _ member)
        exact Nat.le_trans begins later
      · exact (makes _ _ _ _ _ invoked (calm first List.mem_cons_self)).1

/-- What holds of all that `invoke` makes holds of the invocations that an activity made. -/
theorem calls_of_play {holds : LiveInvocation → Prop} (makes : invoke.Makes holds)
    {activity : Activity}
    (plays : activity.play numbering invoke place position now = some played)
    (calm : ∀ call ∈ played.calls, call.Calm) :
    now ≤ played.finish ∧ ∀ call ∈ played.calls, holds call := by
  refine ⟨le_finish_of_play makes plays calm, ?_⟩
  intro call member
  obtain ⟨_, _, _, _, invoked⟩ := exists_invoke_of_play plays call member
  exact (makes _ _ _ _ _ invoked (calm call member)).2

end Played

end Activity

namespace Dispatch

/-- The dispatch of a command of an invocation at `place` that was issued at `now` and whose
handler's activity has been played. -/
def answered (runtime : Runtime) (place : Place) (site : Site) (command : Command)
    (step index now : Nat) (played : Played) : Dispatch :=
  let here := place ++ [step, index]
  let outcome := taskOutcome runtime here played.result
  { command, step, index
    place := here
    opened := site.emit now
      (.command command (UInt64.ofNat step) (UInt64.ofNat index) (.ofMillis now))
    calls := played.calls
    draws := played.draws
    died := played.died
    closed := some (site.emit played.finish
      (.commandComplete command (UInt64.ofNat step) (UInt64.ofNat index) (.ofMillis now)
        (.ofOutcome (.ofMillis now) (.ofMillis played.finish) outcome)))
    finish := played.finish
    ending := .settled outcome }

/-- What became of a command that was issued at `now` and given an outcome. -/
structure Settles (dispatch : Dispatch) (site : Site) (command : Command) (step index now : Nat)
    (outcome : Outcome) : Prop where
  opened : dispatch.opened = site.emit now
    (.command command (UInt64.ofNat step) (UInt64.ofNat index) (.ofMillis now))
  closed : dispatch.closed = some (site.emit dispatch.finish
    (.commandComplete command (UInt64.ofNat step) (UInt64.ofNat index) (.ofMillis now)
      (.ofOutcome (.ofMillis now) (.ofMillis dispatch.finish) outcome)))
  ending : dispatch.ending = .settled outcome
  begins : now ≤ dispatch.finish

section Issued

variable {handlers : Handlers} {runtime : Runtime} {invoke : Site → Invoke} {site : Site}
  {place : Place} {command : Command} {step index now : Nat} {dispatch : Dispatch}

/-- What a command's handler started was invoked below the command's place. -/
theorem exists_invoke_of_one
    (issued : one handlers runtime invoke site place command step index now = some dispatch) :
    ∀ call ∈ dispatch.calls, ∃ place procedure args now,
      invoke site place procedure args now = some call := by
  rcases one_cases issued with ⟨message, _, rfl⟩ | ⟨played, handled, rfl⟩
  · exact List.forall_mem_nil _
  · unfold handle at handled
    split at handled
    · cases handled
      exact List.forall_mem_nil _
    · exact Activity.exists_invoke_of_play handled

/-- A command on whose records no hook panicked is given the outcome of its handler's task. -/
theorem answered_of_one
    (issued : one handlers runtime invoke site place command step index now = some dispatch)
    (calm : ∀ emission ∈ dispatch.own, emission.panic? = none) :
    ∃ played, handle handlers runtime.draw invoke site (place ++ [step, index]) command now =
        some played ∧ dispatch = answered runtime place site command step index now played := by
  rcases one_cases issued with ⟨message, panics, rfl⟩ | ⟨played, handled, rfl⟩
  · have opened := calm _ List.mem_cons_self
    cases opened.symm.trans panics
  · refine ⟨played, handled, ?_⟩
    simp only [calm _ (List.mem_cons_of_mem _ List.mem_cons_self), answered, Option.elim_none]

theorem settles_of_one {holds : LiveInvocation → Prop} (makes : (invoke site).Makes holds)
    (issued : one handlers runtime invoke site place command step index now = some dispatch)
    (calm : dispatch.Calm) :
    (∃ outcome, dispatch.Settles site command step index now outcome) ∧
      ∀ call ∈ dispatch.calls, holds call := by
  obtain ⟨played, handled, rfl⟩ := answered_of_one issued calm.own
  have plays : now ≤ played.finish ∧ ∀ call ∈ played.calls, holds call := by
    unfold handle at handled
    split at handled
    · cases handled
      exact ⟨Nat.le_refl _, List.forall_mem_nil _⟩
    · exact Activity.calls_of_play makes handled calm.calls
  exact ⟨⟨_, rfl, rfl, rfl, plays.1⟩, plays.2⟩

end Issued

section Batch

variable {dispatches : List Dispatch}

/-- The tasks of a batch in the order in which they end. -/
def byFinish (dispatches : List Dispatch) : List Dispatch :=
  chronological Dispatch.finish dispatches

theorem byFinish_perm (dispatches : List Dispatch) : (byFinish dispatches).Perm dispatches :=
  chronological_perm finish dispatches

theorem byFinish_sorted (dispatches : List Dispatch) :
    (byFinish dispatches).Pairwise fun left right => left.finish ≤ right.finish :=
  chronological_sorted finish dispatches

theorem arrivals_eq (dispatches : List Dispatch) :
    arrivals dispatches = (byFinish dispatches).filterMap report? := by
  refine (chronological_filterMap (fun dispatch arrival reports => ?_) dispatches).symm
  unfold report? at reports
  obtain ⟨outcome, _, rfl⟩ := Option.map_eq_some_iff.mp reports
  rfl

/-- A batch's outcome is what is gathered when its tasks end in the order of their times. -/
theorem batchOutcome_eq (dispatches : List Dispatch) :
    batchOutcome dispatches = gather dispatches.length ((byFinish dispatches).filterMap sent?) := by
  rw [batchOutcome, arrivals_eq, List.map_filterMap]
  rfl

theorem gathers_batchOutcome
    (indexed : dispatches.map Dispatch.index = List.range dispatches.length) :
    Gathers dispatches (byFinish dispatches) (batchOutcome dispatches) := by
  rw [batchOutcome_eq]
  exact gathers_of_order indexed (byFinish_perm dispatches)

/-- A batch settles with the first of its tasks to report a failure, or else with the last. -/
theorem batchFinish_eq (now : Nat) (dispatches : List Dispatch) :
    batchFinish now dispatches =
      (((byFinish dispatches).find? fun dispatch => dispatch.failure?.isSome).map finish).getD
        ((dispatches.map finish).foldl max now) := by
  have first (order : List Dispatch) :
      ((order.filterMap report?).find? fun arrival => !arrival.2.outcome.toBool).map Prod.fst =
        (order.find? fun dispatch => dispatch.failure?.isSome).map finish := by
    induction order with
    | nil => rfl
    | cons dispatch rest ih =>
        rw [List.filterMap_cons, List.find?_cons, failure?, sent?]
        cases reports : dispatch.report? with
        | none => exact ih
        | some arrival =>
            obtain ⟨outcome, _, rfl⟩ := Option.map_eq_some_iff.mp reports
            rw [List.find?_cons]
            cases outcome with
            | ok value => exact ih
            | error failure => rfl
  rw [← first, batchFinish, arrivals_eq]
  cases List.find? _ ((byFinish dispatches).filterMap report?) with
  | none => rfl
  | some arrival => rfl

/-- Of tasks in the order of their times either none reports a failure, or the first that does is
the earliest of those that do. -/
theorem earliest_of_sorted {order : List Dispatch}
    (sorted : order.Pairwise fun left right => left.finish ≤ right.finish) :
    ((∀ dispatch ∈ order, dispatch.failure? = none) ∧
        order.find? (fun dispatch => dispatch.failure?.isSome) = none ∧
        order.findSome? failure? = none) ∨
      ∃ first ∈ order, ∃ failure, first.failure? = some failure ∧
        order.find? (fun dispatch => dispatch.failure?.isSome) = some first ∧
        order.findSome? failure? = some failure ∧
        ∀ other ∈ order, other.failure? ≠ none → first.finish ≤ other.finish := by
  induction order with
  | nil => exact .inl ⟨nofun, rfl, rfl⟩
  | cons dispatch rest ih =>
      obtain ⟨later, sorted⟩ := List.pairwise_cons.mp sorted
      rw [List.find?_cons, List.findSome?_cons]
      cases fails : dispatch.failure? with
      | some failure =>
          refine .inr ⟨dispatch, List.mem_cons_self, failure, fails, rfl, rfl, ?_⟩
          exact List.forall_mem_cons.mpr ⟨fun _ => Nat.le_refl _, fun other member _ =>
            later other member⟩
      | none =>
          rcases ih sorted with ⟨succeed, found, reported⟩ |
            ⟨first, member, failure, fails', found, reported, earliest⟩
          · exact .inl ⟨List.forall_mem_cons.mpr ⟨fails, succeed⟩, found, reported⟩
          · refine .inr ⟨first, List.mem_cons_of_mem _ member, failure, fails', found, reported,
              ?_⟩
            exact List.forall_mem_cons.mpr ⟨fun fails' => absurd fails fails', earliest⟩

/-- Either no task of a batch reports a failure, or the first one that does settles the batch. -/
theorem batchFinish_cases (now : Nat) (dispatches : List Dispatch) :
    ((∀ dispatch ∈ dispatches, dispatch.failure? = none) ∧
        (byFinish dispatches).findSome? failure? = none ∧
        batchFinish now dispatches = (dispatches.map finish).foldl max now) ∨
      ∃ first ∈ dispatches, ∃ failure, first.failure? = some failure ∧
        (byFinish dispatches).findSome? failure? = some failure ∧
        batchFinish now dispatches = first.finish ∧
        ∀ other ∈ dispatches, other.failure? ≠ none → first.finish ≤ other.finish := by
  have ends (dispatch : Dispatch) : dispatch ∈ byFinish dispatches ↔ dispatch ∈ dispatches :=
    (byFinish_perm dispatches).mem_iff
  rw [batchFinish_eq]
  rcases earliest_of_sorted (byFinish_sorted dispatches) with ⟨succeed, found, reported⟩ |
    ⟨first, member, failure, fails, found, reported, earliest⟩
  · refine .inl ⟨?_, reported, by rw [found]; rfl⟩
    exact fun dispatch member => succeed dispatch ((ends dispatch).mpr member)
  · refine .inr ⟨first, (ends first).mp member, failure, fails, reported, by rw [found]; rfl, ?_⟩
    exact fun other member => earliest other ((ends other).mpr member)

theorem le_foldl_max (times : List Nat) (now : Nat) :
    now ≤ times.foldl max now ∧ ∀ time ∈ times, time ≤ times.foldl max now := by
  induction times generalizing now with
  | nil => exact ⟨Nat.le_refl _, nofun⟩
  | cons first rest ih =>
      obtain ⟨above, others⟩ := ih (max now first)
      rw [List.foldl_cons]
      refine ⟨by omega, ?_⟩
      intro time member
      rcases List.mem_cons.mp member with rfl | member
      · omega
      · exact others time member

/-- When a batch settles: all its commands have if it succeeds, and one with its
failure has if it fails. -/
structure SettlesAt (dispatches : List Dispatch) (outcome : Outcome) (finish : Nat) : Prop where
  succeeded : ∀ value, outcome = .ok value → ∀ dispatch ∈ dispatches, dispatch.finish ≤ finish
  failed : ∀ failure, outcome = .error failure →
    ∃ dispatch ∈ dispatches, dispatch.ending = .settled (.error failure) ∧
      dispatch.finish ≤ finish

/-- A batch of which no task is lost settles in time. -/
theorem settlesAt_batchFinish (kept : ∀ dispatch ∈ dispatches, ¬ dispatch.Lost)
    {now : Nat} (begins : ∀ dispatch ∈ dispatches, now ≤ dispatch.finish) {outcome : Outcome}
    (gathers : Gathers dispatches (byFinish dispatches) outcome) :
    SettlesAt dispatches outcome (batchFinish now dispatches) ∧
      now ≤ batchFinish now dispatches := by
  rcases batchFinish_cases now dispatches with
    ⟨succeeds, _, last⟩ | ⟨first, member, failure, fails, reported, last, _⟩
  · obtain ⟨latest, all⟩ := le_foldl_max (dispatches.map Dispatch.finish) now
    have settled : ∀ dispatch ∈ dispatches,
        ∃ value, dispatch.ending = .settled (.ok value) := fun dispatch member =>
      settled_ok_of_kept (kept dispatch member) (succeeds dispatch member)
    obtain ⟨value, rfl⟩ := gathers.ok_iff.mpr settled
    rw [last]
    refine ⟨⟨?_, nofun⟩, latest⟩
    intro _ _ dispatch member
    exact all dispatch.finish (List.mem_map_of_mem member)
  · obtain rfl := gathers.failed failure reported
    rw [last]
    refine ⟨⟨nofun, ?_⟩, begins first member⟩
    intro same equal
    cases equal
    exact ⟨first, member, failure?_eq_some_iff.mp fails, Nat.le_refl _⟩

end Batch

end Dispatch

end Resumable
