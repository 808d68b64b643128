import Resumable.Proofs.Live.Completion
import Resumable.Proofs.Live.Log

/-! # The account of a live run

The records of every invocation in the tree of a live run are accounted for: one
when it begins and one when it settles, and one when each command of each step
is issued and one when it settles, whatever became of the other commands of its
batch. There are no others, and the account (`LiveInvocation.Accounted`) says
which come before which. A hook that hears all kinds of events observes these
records, those of different invocations interleaved (`Host.accounts_of_runs`).
-/

namespace Resumable

open Json (Value)

/-- The account of an invocation: it settles, and its records are what they should be. -/
structure LiveInvocation.Accounted (invocation : LiveInvocation) : Prop where
  /-- Every report is made at most once. -/
  once : (invocation.log.map Prod.fst).Nodup
  /-- The first record says that the invocation begins. -/
  opened : ∃ rest, invocation.log = (.opened, ⟨invocation.site.trace,
    .call invocation.procedure invocation.args (.ofMillis invocation.opened.time)⟩) :: rest
  /-- A record says how the invocation settled. -/
  closed : ∃ outcome, invocation.ending = .settled outcome ∧
    invocation.Reports .closed (.callComplete invocation.procedure invocation.args
      (.ofMillis invocation.opened.time) (UInt64.ofNat invocation.stages.length)
      (.ofOutcome (.ofMillis invocation.opened.time) (.ofMillis invocation.finish) outcome))
  /-- A record says that a command of a step is issued, and a later one how it settled. -/
  commands : ∀ (n : Nat) (stage : Stage (List Dispatch) Empty) (i : Nat) (command : Command),
    invocation.stages[n]? = some stage → stage.suspension.commands[i]? = some command →
      ∃ dispatch outcome, stage.evidence[i]? = some dispatch ∧
        dispatch.ending = .settled outcome ∧
        invocation.Reports (.issued n i) (.command command (UInt64.ofNat n) (UInt64.ofNat i)
          (.ofMillis stage.start)) ∧
        invocation.Reports (.settled n i) (.commandComplete command (UInt64.ofNat n)
          (UInt64.ofNat i) (.ofMillis stage.start)
          (.ofOutcome (.ofMillis stage.start) (.ofMillis dispatch.finish) outcome)) ∧
        invocation.Precedes (.issued n i) (.settled n i)
  /-- There is no other record. -/
  others : ∀ mark ∈ invocation.log.map Prod.fst, mark = .opened ∨ mark = .closed ∨
    ∃ n i stage, invocation.stages[n]? = some stage ∧ i < stage.suspension.size ∧
      (mark = .issued n i ∨ mark = .settled n i)
  /-- All commands of a step that succeeds settle before what follows the step. -/
  succeeded : ∀ (n : Nat) (stage : Stage (List Dispatch) Empty) (value : Value) (i : Nat),
    invocation.stages[n]? = some stage → stage.ending = .settled (.ok value) →
      i < stage.suspension.size → ∀ mark ∈ invocation.log.map Prod.fst, mark.After n →
        invocation.Precedes (.settled n i) mark
  /-- A command with the failure of a step that fails settles before what follows the step. -/
  failed : ∀ (n : Nat) (stage : Stage (List Dispatch) Empty) (failure : Failure),
    invocation.stages[n]? = some stage → stage.ending = .settled (.error failure) →
      ∃ i dispatch, stage.evidence[i]? = some dispatch ∧
        dispatch.ending = .settled (.error failure) ∧
        ∀ mark ∈ invocation.log.map Prod.fst, mark.After n →
          invocation.Precedes (.settled n i) mark

theorem Stage.Answered.settles_of_getElem? {stage : Stage (List Dispatch) Empty} {site : Site}
    {step : Nat} {outcome : Outcome} (answered : stage.Answered site step outcome) {i : Nat}
    {dispatch : Dispatch} (found : stage.evidence[i]? = some dispatch) :
    i < stage.suspension.size ∧
      ∃ command result, dispatch.Settles site command step i stage.start result := by
  obtain ⟨inside, _⟩ := List.getElem?_eq_some_iff.mp found
  rw [answered.size] at inside
  have commanded : stage.suspension.commands[i]? = some stage.suspension.commands[i] :=
    List.getElem?_eq_getElem inside
  obtain ⟨other, result, found', settles⟩ := answered.commands i _ commanded
  obtain rfl := Option.some.inj (found.symm.trans found')
  exact ⟨inside, _, result, settles⟩

namespace LiveInvocation

variable {invocation : LiveInvocation} {outcome : Outcome}

/-- All own records of an invocation are emitted at its site. -/
theorem Completes.emit_of_mem_marked (completes : invocation.Completes outcome) {mark : Mark}
    {emission : Emission} (member : (mark, emission) ∈ invocation.marked) :
    ∃ now event, emission = invocation.site.emit now event := by
  rcases mem_marked_iff.mp member with ⟨_, rfl⟩ | ⟨n, stage, i, dispatch, staged, found, marked⟩ |
    ⟨_, closed⟩
  · exact ⟨_, _, completes.opened⟩
  · obtain ⟨_, answered⟩ := completes.proceeds.answered n stage staged
    obtain ⟨_, command, result, settles⟩ := answered.settles_of_getElem? found
    rcases Dispatch.mem_marked_iff.mp marked with ⟨_, rfl⟩ | ⟨_, closed⟩
    · exact ⟨_, _, settles.opened⟩
    · rw [settles.closed] at closed
      exact ⟨_, _, (Option.some.inj closed).symm⟩
  · rw [completes.closed] at closed
    exact ⟨_, _, (Option.some.inj closed).symm⟩

/-- What follows a step is emitted when the step is over. -/
theorem Completes.finish_le_of_after (completes : invocation.Completes outcome) {n : Nat}
    {stage : Stage (List Dispatch) Empty} (staged : invocation.stages[n]? = some stage)
    {mark : Mark} {emission : Emission} (member : (mark, emission) ∈ invocation.marked)
    (after : mark.After n) :
    stage.finish ≤ emission.time := by
  rcases mem_marked_iff.mp member with ⟨rfl, _⟩ | ⟨m, later, i, dispatch, staged', found, marked⟩ |
    ⟨_, closed⟩
  · exact absurd after not_false
  · obtain ⟨_, answered⟩ := completes.proceeds.answered m later staged'
    obtain ⟨_, command, result, settles⟩ := answered.settles_of_getElem? found
    have between (order : n < m) : stage.finish ≤ later.start := by
      obtain ⟨inside, rfl⟩ := List.getElem?_eq_some_iff.mp staged
      obtain ⟨inside', rfl⟩ := List.getElem?_eq_some_iff.mp staged'
      exact List.pairwise_iff_getElem.mp completes.proceeds.ordered n m inside inside' order
    rcases Dispatch.mem_marked_iff.mp marked with ⟨rfl, rfl⟩ | ⟨rfl, closed⟩
    · rw [settles.opened, Site.emit_time]
      exact between after
    · rw [settles.closed] at closed
      rw [← Option.some.inj closed, Site.emit_time]
      exact Nat.le_trans (between after) settles.begins
  · rw [completes.closed] at closed
    rw [← Option.some.inj closed, Site.emit_time]
    exact (completes.proceeds.within stage (List.mem_of_getElem? staged)).2

/-- No record is earlier than the first. -/
theorem Completes.opened_le (completes : invocation.Completes outcome) {mark : Mark}
    {emission : Emission} (member : (mark, emission) ∈ invocation.marked) :
    invocation.opened.time ≤ emission.time := by
  rcases mem_marked_iff.mp member with ⟨_, rfl⟩ | ⟨n, stage, i, dispatch, staged, found, marked⟩ |
    ⟨_, closed⟩
  · exact Nat.le_refl _
  · obtain ⟨_, answered⟩ := completes.proceeds.answered n stage staged
    obtain ⟨_, command, result, settles⟩ := answered.settles_of_getElem? found
    have begins := (completes.proceeds.within stage (List.mem_of_getElem? staged)).1
    rcases Dispatch.mem_marked_iff.mp marked with ⟨_, rfl⟩ | ⟨_, closed⟩
    · rw [settles.opened, Site.emit_time]
      exact begins
    · rw [settles.closed] at closed
      rw [← Option.some.inj closed, Site.emit_time]
      exact Nat.le_trans begins settles.begins
  · rw [completes.closed] at closed
    rw [← Option.some.inj closed, Site.emit_time]
    exact completes.proceeds.begins

/-- A settled command's record comes before all that follows the step if the
command settles before the step does. -/
theorem Completes.precedes_of_after (completes : invocation.Completes outcome) {n i : Nat}
    {stage : Stage (List Dispatch) Empty} (staged : invocation.stages[n]? = some stage)
    {dispatch : Dispatch} (found : stage.evidence[i]? = some dispatch)
    (within : dispatch.finish ≤ stage.finish) {mark : Mark}
    (member : mark ∈ invocation.log.map Prod.fst) (after : mark.After n) :
    invocation.Precedes (.settled n i) mark := by
  obtain ⟨emission, marked⟩ := exists_mem_marked member
  obtain ⟨_, answered⟩ := completes.proceeds.answered n stage staged
  obtain ⟨_, command, result, settles⟩ := answered.settles_of_getElem? found
  have here : (Mark.settled n i, _) ∈ invocation.marked := mem_marked_iff.mpr <| .inr <| .inl
    ⟨n, stage, i, dispatch, staged, found, Dispatch.mem_marked_iff.mpr (.inr ⟨rfl, settles.closed⟩)⟩
  apply precedes_of_before here marked (Mark.before_of_after after)
  rw [Site.emit_time]
  exact Nat.le_trans within (completes.finish_le_of_after staged marked after)

/-- **An invocation that completes is accounted for.** -/
theorem Completes.accounted (completes : invocation.Completes outcome) : invocation.Accounted := by
  refine ⟨?_, ?_, ⟨outcome, completes.ending, ?_⟩, ?_, ?_, ?_, ?_⟩
  · rw [(map_fst_log_perm invocation).nodup_iff]
    refine invocation.pairwise_marked.imp fun {mark mark'} before same => ?_
    subst same
    exact Mark.before_asymm before before
  · unfold log marked
    rw [chronological, List.foldr_cons, ← chronological, insertByTime_eq_cons, List.map_cons,
      completes.opened]
    · exact ⟨_, rfl⟩
    · rintro ⟨mark, emission⟩ member
      have among : (mark, emission) ∈ invocation.marked :=
        List.mem_cons_of_mem _ ((chronological_perm _ _).mem_iff.mp member)
      exact completes.opened_le among
  · exact mem_log_of_mem_marked (mem_marked_iff.mpr (.inr (.inr ⟨rfl, completes.closed⟩)))
  · intro n stage i command staged commanded
    obtain ⟨given, answered⟩ := completes.proceeds.answered n stage staged
    rw [Nat.zero_add] at answered
    obtain ⟨dispatch, result, found, settles⟩ := answered.commands i command commanded
    have issued : (Mark.issued n i, dispatch.opened) ∈ invocation.marked :=
      mem_marked_iff.mpr <| .inr <| .inl ⟨n, stage, i, dispatch, staged, found,
        Dispatch.mem_marked_iff.mpr (.inl ⟨rfl, rfl⟩)⟩
    have settled : (Mark.settled n i, _) ∈ invocation.marked :=
      mem_marked_iff.mpr <| .inr <| .inl ⟨n, stage, i, dispatch, staged, found,
        Dispatch.mem_marked_iff.mpr (.inr ⟨rfl, settles.closed⟩)⟩
    refine ⟨dispatch, result, found, settles.ending, ?_, mem_log_of_mem_marked settled, ?_⟩
    · have reported := mem_log_of_mem_marked issued
      rw [settles.opened, Site.emit_record] at reported
      exact reported
    · apply precedes_of_before issued settled (.inr ⟨rfl, Nat.le_refl _⟩)
      rw [settles.opened, Site.emit_time, Site.emit_time]
      exact settles.begins
  · intro mark member
    obtain ⟨emission, marked⟩ := exists_mem_marked member
    rcases mem_marked_iff.mp marked with ⟨rfl, _⟩ |
      ⟨n, stage, i, dispatch, staged, found, marked⟩ | ⟨rfl, _⟩
    · exact .inl rfl
    · obtain ⟨_, answered⟩ := completes.proceeds.answered n stage staged
      obtain ⟨inside, _⟩ := answered.settles_of_getElem? found
      exact .inr (.inr ⟨n, i, stage, staged, inside, Dispatch.fst_of_mem_marked marked⟩)
    · exact .inr (.inl rfl)
  · intro n stage value i staged ending inside mark member after
    obtain ⟨given, answered⟩ := completes.proceeds.answered n stage staged
    obtain rfl : given = .ok value := Ending.settled.inj (answered.ending.symm.trans ending)
    obtain ⟨dispatch, found⟩ : ∃ dispatch, stage.evidence[i]? = some dispatch := by
      rw [← answered.size] at inside
      exact ⟨_, List.getElem?_eq_getElem inside⟩
    have within := answered.settles.succeeded value rfl dispatch (List.mem_of_getElem? found)
    exact completes.precedes_of_after staged found within member after
  · intro n stage failure staged ending
    obtain ⟨given, answered⟩ := completes.proceeds.answered n stage staged
    obtain rfl : given = .error failure := Ending.settled.inj (answered.ending.symm.trans ending)
    obtain ⟨dispatch, issued, fails, within⟩ := answered.settles.failed failure rfl
    obtain ⟨i, found⟩ := List.mem_iff_getElem?.mp issued
    exact ⟨i, dispatch, found, fails, fun mark member after =>
      completes.precedes_of_after staged found within member after⟩

end LiveInvocation

section Runs

variable {host : Host} {config : Config} {fresh : RunId} {procedure : Procedure} {args : Value}

/-- The host runs a procedure from the outside, to its end, with counters that may
give any numbers and tasks that may be described in any way when they die. -/
def Host.Runs (host : Host) (config : Config) (fresh : RunId) (procedure : Procedure) (args : Value)
    (invocation : LiveInvocation) : Prop :=
  ∃ runtime fuel,
    invoke host.handlers runtime fuel (.root config fresh) [] procedure args 0 = some invocation

/-- What is settled for is played with the numbers that its own draws get. -/
theorem Tally.play_of_settleFrom {α : Type} {play : Numbering → Option α} {draws : α → List Draw}
    {counts : Counts} {rounds : Nat} {table : List (Place × Nat)} {result : α}
    (settles : settleFrom play draws counts rounds table = some result) :
    play (numbering (number counts (inOrder (draws result)))) = some result := by
  induction rounds generalizing table with
  | zero => cases settles
  | succ rounds ih =>
      simp only [settleFrom, Option.bind_eq_bind, Option.bind_eq_some_iff] at settles
      obtain ⟨played, plays, settles⟩ := settles
      split at settles
      · rename_i same
        cases settles
        rw [same, plays]
      · exact ih settles

/-- The host runs a procedure in this way, and its caller drops the run at `cutoff` unless it ends
before. -/
def Host.Leaves (host : Host) (config : Config) (fresh : RunId) (procedure : Procedure)
    (args : Value) (cutoff : Option Nat) (run : LiveRun) : Prop :=
  ∃ invocation, host.Runs config fresh procedure args invocation ∧
    run = LiveRun.ofInvocation cutoff invocation

theorem Host.leaves_iff_play {cutoff : Option Nat} {run : LiveRun} :
    host.Leaves config fresh procedure args cutoff run ↔
      ∃ runtime fuel, host.play runtime fuel config fresh procedure args cutoff = some run := by
  unfold Leaves Runs play
  simp only [Option.map_eq_some_iff]
  constructor
  · intro ⟨invocation, ⟨runtime, fuel, invoked⟩, same⟩
    exact ⟨runtime, fuel, invocation, invoked, same.symm⟩
  · intro ⟨runtime, fuel, invocation, invoked, same⟩
    exact ⟨invocation, ⟨runtime, fuel, invoked⟩, same.symm⟩

/-- What a host makes of a procedure is played with the numbers that its draws get. -/
theorem Host.play_of_run {describe : Death → String} {cutoff : Option Nat}
    {counts counts' : Counts} {run : LiveRun}
    (ran : host.run describe config fresh procedure args cutoff counts = some (run, counts')) :
    host.play ⟨Tally.numbering (Tally.number counts (Tally.inOrder run.draws)), describe⟩ limit
      config fresh procedure args cutoff = some run := by
  simp only [Host.run, Option.bind_eq_bind, Option.bind_eq_some_iff, Option.pure_def,
    Option.some.injEq, Prod.mk.injEq] at ran
  obtain ⟨played, settles, rfl, _⟩ := ran
  exact Tally.play_of_settleFrom settles

theorem Host.leaves_of_run {describe : Death → String} {cutoff : Option Nat}
    {counts counts' : Counts} {run : LiveRun}
    (ran : host.run describe config fresh procedure args cutoff counts = some (run, counts')) :
    host.Leaves config fresh procedure args cutoff run :=
  leaves_iff_play.mpr ⟨_, limit, play_of_run ran⟩

end Runs

end Resumable
