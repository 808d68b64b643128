import Resumable.Proofs.Live.Lineage

/-! # Panics are contained

A hook may panic on any record of a run. What this unwinds ends at the next task: a handler has a
task of its own, and so has each command of a batch. So an invocation is unwound by a panic on its
exposed records alone, which are its own two and those of its single commands
(`LiveInvocation.exposed`). To the command whose handler started it this is a failure like any other
(`Dispatch.Contained`), and a batch whose command is unwound fails and misses nothing else
(`Stage.Contained`). All invocations of a run's tree are contained in this way
(`Host.contains_panics`).
-/

namespace Resumable

open Json (Value)

/-- The records on which a panic unwinds the invocation of the step. -/
def Stage.exposed (stage : Stage (List Dispatch) Empty) : List Emission :=
  match stage.suspension with
  | .one _ => stage.own
  | .all _ => []

/-- The records on which a panic unwinds the invocation. -/
def LiveInvocation.exposed (invocation : LiveInvocation) : List Emission :=
  invocation.opened :: (invocation.stages.flatMap Stage.exposed ++ invocation.closed.toList)

/-- What became of a command that is issued at `now`, whatever the hooks do. -/
structure Dispatch.Contained (dispatch : Dispatch) (runtime : Runtime) (site : Site)
    (command : Command) (step index now : Nat) : Prop where
  opened : dispatch.opened = site.emit now
    (.command command (UInt64.ofNat step) (UInt64.ofNat index) (.ofMillis now))
  /-- Nothing unwinds it but a panic on one of its two records. -/
  unwound_iff : ∀ message, dispatch.ending = .unwound message ↔
    ∃ emission ∈ dispatch.own, emission.panic? = some message
  /-- A panic on the first record keeps the handler from being asked. -/
  refused : ∀ message, dispatch.opened.panic? = some message →
    dispatch.calls = [] ∧ dispatch.closed = none ∧ dispatch.finish = now
  /-- Else there is an outcome. The second record reports it, and unless a hook panics on this
  record the command settles with it. An invocation that is unwound ends the task of the handler
  that started it, and the outcome is the failure of the task as the runtime describes it. -/
  handled : dispatch.opened.panic? = none → ∃ outcome closed,
    dispatch.closed = some closed ∧
    closed = site.emit dispatch.finish
      (.commandComplete command (UInt64.ofNat step) (UInt64.ofNat index) (.ofMillis now)
        (.ofOutcome (.ofMillis now) (.ofMillis dispatch.finish) outcome)) ∧
    (closed.panic? = none → dispatch.ending = .settled outcome) ∧
    ∀ call ∈ dispatch.calls, ∀ message, call.ending = .unwound message →
      dispatch.calls.getLast? = some call ∧ dispatch.finish = call.finish ∧
        dispatch.died = some message ∧
        outcome = .error (runtime.panicked ⟨dispatch.place, message⟩)

/-- How a batch settles some of whose commands may be lost. -/
structure Dispatch.Outlasts (dispatches : List Dispatch) (start finish : Nat) (outcome : Outcome) :
    Prop where
  /-- It never succeeds without all its commands. -/
  succeeds : ∀ value, outcome = .ok value →
    ∀ dispatch ∈ dispatches, ∃ value, dispatch.ending = .settled (.ok value)
  /-- If commands report failures it fails with the first of these as soon as it is reported. -/
  reported : (∃ dispatch ∈ dispatches, ∃ failure, dispatch.ending = .settled (.error failure)) →
    ∃ first ∈ dispatches, ∃ failure, first.ending = .settled (.error failure) ∧
      outcome = .error failure ∧ finish = first.finish ∧
      ∀ other ∈ dispatches, ∀ failure', other.ending = .settled (.error failure') →
        first.finish ≤ other.finish
  /-- Else a lost command fails it when the last task has ended. -/
  lost : (∀ dispatch ∈ dispatches, ∀ failure, dispatch.ending ≠ .settled (.error failure)) →
    (∃ dispatch ∈ dispatches, dispatch.Lost) →
      outcome = .error Gather.incomplete ∧
        finish = (dispatches.map Dispatch.finish).foldl max start ∧
        ∀ dispatch ∈ dispatches, dispatch.finish ≤ finish

/-- What became of a step of an invocation at `site`, whatever the hooks do. -/
structure Stage.Contained (stage : Stage (List Dispatch) Empty) (runtime : Runtime) (site : Site)
    (step : Nat) : Prop where
  size : stage.evidence.length = stage.suspension.size
  indexed : stage.evidence.map Dispatch.index = List.range stage.evidence.length
  /-- Every command is dispatched at its position, whatever becomes of the others. -/
  commands : ∀ (i : Nat) (command : Command), stage.suspension.commands[i]? = some command →
    ∃ dispatch, stage.evidence[i]? = some dispatch ∧
      dispatch.Contained runtime site command step i stage.start
  /-- The step of a single command ends as the command does. -/
  single : ∀ command, stage.suspension = .one command → ∃ dispatch,
    stage.evidence = [dispatch] ∧ stage.ending = dispatch.ending ∧ stage.finish = dispatch.finish
  /-- A batch settles in any case. -/
  batch : ∀ commands, stage.suspension = .all commands →
    stage.ending = .settled (Dispatch.batchOutcome stage.evidence) ∧
      Dispatch.Outlasts stage.evidence stage.start stage.finish
        (Dispatch.batchOutcome stage.evidence)

/-- What became of an invocation of a procedure, whatever the hooks do. -/
structure LiveInvocation.Contained (invocation : LiveInvocation) (runtime : Runtime)
    (procedure : Procedure) : Prop where
  opened : invocation.opened = invocation.site.emit invocation.opened.time
    (.call procedure.name invocation.args (.ofMillis invocation.opened.time))
  /-- Nothing unwinds it but a panic on one of its exposed records. -/
  unwound_iff : ∀ message, invocation.ending = .unwound message ↔
    ∃ emission ∈ invocation.exposed, emission.panic? = some message
  /-- A panic on the first record keeps the computation from being started. -/
  refused : ∀ message, invocation.opened.panic? = some message →
    invocation.stages = [] ∧ invocation.closed = none
  stages : ∀ (n : Nat) (stage : Stage (List Dispatch) Empty), invocation.stages[n]? = some stage →
    stage.Contained runtime invocation.site n
  /-- Else the computation is resumed with what each step comes to, and unless the last step is
  unwound it settles and the last record reports how. -/
  resumed : invocation.opened.panic? = none → ∃ finale : Finale Empty,
    answers procedure.move (procedure.initial invocation.args)
        (.start :: (invocation.stages.filterMap fun stage => stage.ending.outcome?).map
          .ofOutcome) =
      invocation.stages.map (fun stage => .suspend stage.suspension) ++
        finale.ending.outcome?.toList.map .ofOutcome ∧
    invocation.closed = finale.ending.outcome?.map
      (Performer.completion invocation.site procedure.name invocation.args
        invocation.opened.time finale)

section Played

variable {numbering : Numbering} {invoke : Invoke} {place : Place} {position now : Nat}
  {played : Played}

/-- An invocation that is unwound is the last thing that an activity does. -/
theorem Activity.caught_of_play {activity : Activity}
    (plays : activity.play numbering invoke place position now = some played) :
    ∀ call ∈ played.calls, ∀ message, call.ending = .unwound message →
      played.calls.getLast? = some call ∧ played.finish = call.finish ∧
        played.result = .error message := by
  induction activity generalizing position now played with
  | settle outcome =>
      cases plays
      exact List.forall_mem_nil _
  | panic message =>
      cases plays
      exact List.forall_mem_nil _
  | sleep ms next ih => exact ih plays
  | draw counter next ih =>
      obtain ⟨rest, further, rfl⟩ := exists_play_of_draw plays
      have caught := ih _ further
      exact caught
  | call procedure args next ih =>
      intro call member message unwinds
      obtain ⟨first, _, ⟨outcome, rest, settled, further, rfl⟩ | ⟨message', unwound, rfl⟩⟩ :=
        exists_invocation_of_call plays
      · rcases List.mem_cons.mp member with rfl | member
        · cases settled.symm.trans unwinds
        · obtain ⟨last, finish, result⟩ := ih _ further call member message unwinds
          refine ⟨?_, finish, result⟩
          rw [List.getLast?_cons, last, Option.getD_some]
      · obtain rfl := List.mem_singleton.mp member
        cases unwound.symm.trans unwinds
        exact ⟨rfl, rfl, rfl⟩

end Played

section Steps

variable {handlers : Handlers} {runtime : Runtime}

section Issued

variable {invoke : Site → Invoke} {site : Site} {place : Place} {step now : Nat}

/-- A panic on the first record of a command is all there is of it. -/
theorem Dispatch.one_of_panic {command : Command} {index : Nat} {message : String}
    (panics : (site.emit now (.command command (UInt64.ofNat step) (UInt64.ofNat index)
      (.ofMillis now))).panic? = some message) :
    one handlers runtime invoke site place command step index now =
      some ⟨command, step, index, place ++ [step, index], site.emit now (.command command
        (UInt64.ofNat step) (UInt64.ofNat index) (.ofMillis now)), [], [], none, none, now,
        .unwound message⟩ := by
  unfold one
  simp only [panics]

/-- **A command contains what its handler starts.** -/
theorem Dispatch.contained_of_one {command : Command} {index : Nat} {dispatch : Dispatch}
    (issued : one handlers runtime invoke site place command step index now = some dispatch) :
    dispatch.Contained runtime site command step index now := by
  cases panics : (site.emit now (.command command (UInt64.ofNat step) (UInt64.ofNat index)
      (.ofMillis now))).panic? with
  | some message =>
      rw [one_of_panic panics] at issued
      cases issued
      refine ⟨rfl, ?_, fun _ _ => ⟨rfl, rfl, rfl⟩, ?_⟩
      · intro message'
        simp [own, panics]
      · intro calm
        cases panics.symm.trans calm
  | none =>
      rcases one_cases issued with ⟨message, panics', _⟩ | ⟨played, handled, rfl⟩
      · cases panics.symm.trans panics'
      refine ⟨rfl, ?_, ?_, ?_⟩
      · intro message
        simp only [own, Option.toList_some, List.mem_cons, List.not_mem_nil, or_false,
          exists_eq_or_imp, exists_eq_left, panics, reduceCtorEq, false_or]
        cases Emission.panic? (site.emit played.finish _) with
        | none => simp
        | some message' => simp
      · intro message panics'
        cases panics.symm.trans panics'
      · intro _
        refine ⟨_, _, rfl, rfl, ?_, ?_⟩
        · intro calm
          simp only [calm, Option.elim_none]
        · intro call member message unwinds
          unfold handle at handled
          split at handled
          · cases handled
            cases member
          · obtain ⟨last, finish, result⟩ :=
              Activity.caught_of_play handled call member message unwinds
            exact ⟨last, finish, by rw [Played.died, result], by rw [result]; rfl⟩

/-- A batch whose tasks end in the order of their times outlasts the commands that it loses. -/
theorem Dispatch.outlasts_of_gathers {dispatches : List Dispatch} {outcome : Outcome} (start : Nat)
    (gathers : Gathers dispatches (byFinish dispatches) outcome) :
    Outlasts dispatches start (batchFinish start dispatches) outcome := by
  rcases batchFinish_cases start dispatches with
    ⟨succeeds, none_reported, last⟩ | ⟨first, member, failure, fails, reported, last, earliest⟩
  · refine ⟨fun value same => gathers.ok_iff.mp ⟨value, same⟩, ?_, ?_⟩
    · intro ⟨dispatch, member, failure, fails⟩
      rw [← failure?_eq_some_iff, succeeds dispatch member] at fails
      cases fails
    · intro _ lost
      refine ⟨gathers.lost none_reported lost, last, ?_⟩
      intro dispatch member
      rw [last]
      exact (le_foldl_max _ start).2 dispatch.finish (List.mem_map_of_mem member)
  · refine ⟨fun value same => gathers.ok_iff.mp ⟨value, same⟩, ?_, ?_⟩
    · intro _
      refine ⟨first, member, failure, failure?_eq_some_iff.mp fails,
        gathers.failed failure reported, last, ?_⟩
      intro other among failure' fails'
      apply earliest other among
      rw [failure?_eq_some_iff.mpr fails']
      exact Option.some_ne_none failure'
    · intro none_fails
      exact absurd (failure?_eq_some_iff.mp fails) (none_fails first member failure)

/-- **A step contains what its commands start.** -/
theorem Stage.contained_of_suspension {suspension : Suspension}
    {performed : Performance Unit (List Dispatch) Empty}
    (performs : Dispatch.suspension handlers runtime invoke site place suspension step 0 now =
      some performed) :
    (⟨suspension, step, now, performed.evidence, performed.finish, performed.ending⟩ :
      Stage (List Dispatch) Empty).Contained runtime site step := by
  cases suspension with
  | one command =>
      simp only [Dispatch.suspension, Option.bind_eq_bind, Option.bind_eq_some_iff,
        Option.pure_def, Option.some.injEq] at performs
      obtain ⟨dispatch, issued, rfl⟩ := performs
      obtain ⟨_, _, index⟩ := Dispatch.one_eq_some issued
      refine ⟨rfl, congrArg (fun index => [index]) index, ?_,
        fun _ _ => ⟨dispatch, rfl, rfl, rfl⟩, ?_⟩
      · intro i other found
        cases i with
        | zero =>
            cases found
            exact ⟨dispatch, rfl, Dispatch.contained_of_one issued⟩
        | succ i => cases found
      · intro commands suspended
        cases suspended
  | all commands =>
      simp only [Dispatch.suspension, Option.bind_eq_bind, Option.bind_eq_some_iff,
        Option.pure_def, Option.some.injEq] at performs
      obtain ⟨dispatches, issued, rfl⟩ := performs
      have indexed := Dispatch.map_index_of_all issued
      refine ⟨(Dispatch.all_eq_some issued).1, indexed, ?_, ?_, ?_⟩
      · intro i command commanded
        obtain ⟨dispatch, found, made⟩ := Dispatch.exists_getElem?_of_all issued commanded
        exact ⟨dispatch, found, Dispatch.contained_of_one made⟩
      · intro command suspended
        cases suspended
      · intro _ _
        exact ⟨rfl, Dispatch.outlasts_of_gathers now (Dispatch.gathers_batchOutcome indexed)⟩

/-- A step is unwound by a panic on its exposed records alone. -/
theorem Stage.Contained.unwound_iff {stage : Stage (List Dispatch) Empty}
    (contained : stage.Contained runtime site step) (message : String) :
    stage.ending = .unwound message ↔
      ∃ emission ∈ stage.exposed, emission.panic? = some message := by
  unfold Stage.exposed
  cases suspended : stage.suspension with
  | one command =>
      obtain ⟨dispatch, evidence, ending, _⟩ := contained.single command suspended
      obtain ⟨other, found, within⟩ := contained.commands 0 command (by rw [suspended]; rfl)
      rw [evidence] at found
      cases found
      simp only [ending, within.unwound_iff, Stage.own, evidence, List.flatMap_cons,
        List.flatMap_nil, List.append_nil]
  | all commands =>
      obtain ⟨ending, _⟩ := contained.batch commands suspended
      simp [ending]

/-- **The steps of a computation are contained**, and they are unwound by a panic on their exposed
records alone. -/
theorem contained_of_course {τ : Type} {move : τ → Input → Step × τ} {own last : Unit} {state : τ}
    {input : Input} {stages : List (Stage (List Dispatch) Empty)} {finale : Finale Empty}
    (course : (handling handlers runtime invoke place).Course site move step own state input now
      stages finale last) :
    (∀ (n : Nat) (stage : Stage (List Dispatch) Empty), stages[n]? = some stage →
      stage.Contained runtime site (step + n)) ∧
    ∀ message, finale.ending = .unwound message ↔
      ∃ emission ∈ stages.flatMap Stage.exposed, emission.panic? = some message := by
  induction course with
  | done answer => exact ⟨nofun, fun message => by simp⟩
  | failed answer => exact ⟨nofun, fun message => by simp⟩
  | @stopped step now own state after input suspension performed answer performs stops =>
      have contained := Stage.contained_of_suspension performs
      refine ⟨?_, ?_⟩
      · intro n stage found
        cases n with
        | zero =>
            cases found
            exact contained
        | succ n => cases found
      · intro message
        rw [List.flatMap_cons, List.flatMap_nil, List.append_nil]
        exact contained.unwound_iff message
  | @resumed step now own last state after input suspension performed outcome stages finale
      answer performs settles rest ih =>
      have contained := Stage.contained_of_suspension performs
      obtain ⟨others, unwound_iff⟩ := ih
      refine ⟨?_, ?_⟩
      · intro n stage found
        cases n with
        | zero =>
            cases found
            exact contained
        | succ n =>
            have later := others n stage found
            rwa [show step + 1 + n = step + (n + 1) by omega] at later
      · intro message
        have calm : ¬ ∃ emission ∈ Stage.exposed _, emission.panic? = some message :=
          fun panics => by cases settles.symm.trans ((contained.unwound_iff message).mpr panics)
        rw [unwound_iff, List.flatMap_cons]
        simp only [List.mem_append, or_and_right, exists_or, calm, false_or]

end Issued

end Steps

section Resumed

variable {σ δ ε τ : Type}

/-- A computation is given the outcomes of its steps, and what it answers is its further steps and
in the end its own outcome. -/
theorem Performer.Course.answers_eq {performer : Performer σ δ ε} {site : Site}
    {move : τ → Input → Step × τ} {step now : Nat} {own last : σ} {state : τ} {input : Input}
    {stages : List (Stage δ ε)} {finale : Finale ε}
    (course : performer.Course site move step own state input now stages finale last) :
    answers move state
        (input :: (stages.filterMap fun stage => stage.ending.outcome?).map .ofOutcome) =
      stages.map (fun stage => .suspend stage.suspension) ++
        finale.ending.outcome?.toList.map .ofOutcome := by
  induction course with
  | done answer =>
      rw [List.filterMap_nil, List.map_nil, answers, answers, answer]
      rfl
  | failed answer =>
      rw [List.filterMap_nil, List.map_nil, answers, answers, answer]
      rfl
  | @stopped step now own state after input suspension performed answer performs stops =>
      have silent := Ending.outcome?_eq_none stops
      simp only [List.filterMap_cons, silent, List.filterMap_nil, List.map_nil, answers, answer]
      rfl
  | @resumed step now own last state after input suspension performed outcome stages finale
      answer performs settles rest ih =>
      have given : performed.ending.outcome? = some outcome := by
        rw [settles]
        rfl
      simp only [List.filterMap_cons, given, List.map_cons, List.cons_append, ← ih]
      rw [answers, answer]

end Resumed

section Invoked

variable {handlers : Handlers} {runtime : Runtime} {fuel : Nat} {parent : Site} {place : Place}
  {procedure : Procedure} {args : Value} {now : Nat} {invocation : LiveInvocation}

/-- A panic on the first record of an invocation is all there is of it. -/
theorem Performer.invoke_of_panic {σ δ ε : Type} {performer : Performer σ δ ε} {site : Site}
    {own : σ} {message : String}
    (panics : (site.emit now (.call procedure.name args (.ofMillis now))).panic? = some message) :
    performer.invoke site procedure args now fuel own =
      some (⟨site, procedure.name, args,
        site.emit now (.call procedure.name args (.ofMillis now)), [], none, now,
        .unwound message⟩, own) := by
  unfold invoke
  simp only [panics]

/-- An invocation is unwound with its loop or by a panic on its last record. -/
theorem Performer.Concludes.unwound_iff {σ δ ε : Type} {performer : Performer σ δ ε} {site : Site}
    {name : String} {finale : Finale ε} {made : Invocation δ ε}
    (concludes : performer.Concludes site name args now finale made) (message : String) :
    made.ending = .unwound message ↔ finale.ending = .unwound message ∨
      ∃ closed, made.closed = some closed ∧ closed.panic? = some message := by
  unfold Concludes at concludes
  cases ending : finale.ending with
  | settled outcome =>
      rw [ending] at concludes
      rw [concludes.1, concludes.2]
      cases panics : (completion site name args now finale outcome).panic? with
      | none => simp [panics]
      | some message' => simp [panics]
  | halted error =>
      rw [ending] at concludes
      rw [concludes.1, concludes.2]
      cases panics : (completion site name args now finale _).panic? with
      | none => simp [panics]
      | some message' => simp [panics]
  | unwound message' =>
      rw [ending] at concludes
      rw [concludes.1, concludes.2]
      simp

theorem Performer.Concludes.closed_eq {σ δ : Type} {performer : Performer σ δ Empty} {site : Site}
    {name : String} {finale : Finale Empty} {made : Invocation δ Empty}
    (concludes : performer.Concludes site name args now finale made) :
    made.closed = finale.ending.outcome?.map (completion site name args now finale) := by
  unfold Concludes at concludes
  cases ending : finale.ending with
  | settled outcome =>
      rw [ending] at concludes
      exact concludes.1
  | halted error => exact error.elim
  | unwound message =>
      rw [ending] at concludes
      exact concludes.1

/-- After a first record on which no hook panics, those of the steps and the last one are left. -/
theorem LiveInvocation.exists_exposed_iff_of_calm (calm : invocation.opened.panic? = none)
    {message : String} :
    (∃ emission ∈ invocation.exposed, emission.panic? = some message) ↔
      (∃ emission ∈ invocation.stages.flatMap Stage.exposed, emission.panic? = some message) ∨
        ∃ closed, invocation.closed = some closed ∧ closed.panic? = some message := by
  unfold exposed
  constructor
  · intro ⟨emission, member, panics⟩
    rcases List.mem_cons.mp member with rfl | member
    · cases calm.symm.trans panics
    rcases List.mem_append.mp member with member | closed
    · exact .inl ⟨emission, member, panics⟩
    · exact .inr ⟨emission, Option.mem_toList.mp closed, panics⟩
  · intro panics
    rcases panics with ⟨emission, member, panics⟩ | ⟨closed, same, panics⟩
    · exact ⟨emission, List.mem_cons_of_mem _ (List.mem_append_left _ member), panics⟩
    · refine ⟨closed, List.mem_cons_of_mem _ (List.mem_append_right _ ?_), panics⟩
      exact Option.mem_toList.mpr same

/-- **An invocation contains what its handlers start.** -/
theorem contained_of_invoke
    (found : invoke handlers runtime fuel parent place procedure args now = some invocation) :
    invocation.Contained runtime procedure := by
  cases fuel with
  | zero => cases found
  | succ fuel =>
      unfold Resumable.invoke at found
      obtain ⟨⟨made, last⟩, invoked, rfl⟩ := Option.map_eq_some_iff.mp found
      obtain ⟨site, name, given⟩ := Performer.place_of_invoke invoked
      obtain ⟨opened, ends⟩ := Performer.invoke_cases invoked
      have time : made.opened.time = now := by rw [opened, Site.emit_time]
      cases panics : made.opened.panic? with
      | some message =>
          rw [opened] at panics
          rw [Performer.invoke_of_panic panics] at invoked
          cases invoked
          refine ⟨rfl, ?_, fun _ _ => ⟨rfl, rfl⟩, ?_, ?_⟩
          · intro message'
            simp [LiveInvocation.exposed, panics]
          · intro n stage listed
            cases listed
          · intro calm
            cases panics.symm.trans calm
      | none =>
          rcases ends with ⟨message, panics', _⟩ | ⟨finale, staged, concludes⟩
          · cases panics.symm.trans panics'
          have course := Performer.course_of_start staged
          obtain ⟨stages, unwound_iff⟩ := contained_of_course course
          have steps (n : Nat) (stage : Stage (List Dispatch) Empty)
              (listed : made.stages[n]? = some stage) :
              stage.Contained runtime made.site n := by
            have contained := stages n stage listed
            rwa [Nat.zero_add, ← site] at contained
          refine ⟨?_, ?_, ?_, steps, ?_⟩
          · rw [time, site, given]
            exact opened
          · intro message
            rw [concludes.unwound_iff, unwound_iff,
              LiveInvocation.exists_exposed_iff_of_calm panics]
          · intro message panics'
            cases panics.symm.trans panics'
          · intro _
            refine ⟨finale, ?_, ?_⟩
            · rw [given]
              exact course.answers_eq
            · rw [time, site, given]
              exact concludes.closed_eq

/-- What the handlers of an invocation started was invoked with fewer resources. -/
theorem exists_invoke_of_calls {call : LiveInvocation}
    (found : invoke handlers runtime (fuel + 1) parent place procedure args now =
      some invocation) (called : invocation.Calls call) :
    ∃ site place procedure args now,
      invoke handlers runtime fuel site place procedure args now = some call := by
  obtain ⟨stage, staged, dispatch, issued, called⟩ := called
  unfold Resumable.invoke at found
  obtain ⟨⟨made, last⟩, invoked, rfl⟩ := Option.map_eq_some_iff.mp found
  obtain ⟨_, ⟨_, _, none_staged, _⟩ | ⟨finale, course, _⟩⟩ := Performer.invoke_cases invoked
  · rw [none_staged] at staged
    cases staged
  · have made := (Performer.course_of_start course).evidence
      (fun evidence => ∀ dispatch ∈ evidence, ∀ call ∈ dispatch.calls, ∃ place procedure args now,
        invoke handlers runtime fuel _ place procedure args now = some call)
      (fun _ _ _ _ _ performs dispatch member => by
        obtain ⟨command, index, issued⟩ := Dispatch.exists_one_of_suspension performs member
        exact Dispatch.exists_invoke_of_one issued)
    exact ⟨_, made stage staged dispatch issued call called⟩

/-- All invocations of a tree were invoked. -/
theorem exists_invoke_of_mem_tree {inner : LiveInvocation}
    (found : invoke handlers runtime fuel parent place procedure args now = some invocation)
    (member : inner ∈ invocation.tree) :
    ∃ fuel parent place procedure args now,
      invoke handlers runtime fuel parent place procedure args now = some inner := by
  induction fuel generalizing parent place procedure args now invocation with
  | zero => cases found
  | succ fuel ih =>
      rcases LiveInvocation.mem_tree_iff_calls.mp member with rfl | ⟨call, called, member⟩
      · exact ⟨_, _, _, _, _, _, found⟩
      · obtain ⟨_, _, _, _, _, invoked⟩ := exists_invoke_of_calls found called
        exact ih invoked member

end Invoked

section Runs

variable {host : Host} {config : Config} {fresh : RunId} {procedure : Procedure} {args : Value}
  {invocation : LiveInvocation}

/-- The invocation is what the host makes of the procedure at some place of some run. -/
def Host.Invokes (host : Host) (procedure : Procedure) (invocation : LiveInvocation) : Prop :=
  ∃ runtime fuel parent place args now,
    invoke host.handlers runtime fuel parent place procedure args now = some invocation

/-- **The panic of a hook is contained**, on whatever records hooks panic. A run is unwound by a
panic on one of its exposed records, and by nothing else. The same holds of each invocation of its
tree: there the panic ends the task of the handler that started it, and its command fails with what
the runtime says of this task (`Dispatch.Contained.handled`); the invocation that issued the command
is resumed with what the step comes to (`LiveInvocation.Contained.resumed`). In a batch a panic on
the records of a command takes the report of this command alone (`Stage.Contained.commands`), and
fails the batch (`Dispatch.Outlasts`). -/
theorem Host.contains_panics (runs : host.Runs config fresh procedure args invocation) :
    (∀ message, invocation.ending = .unwound message ↔
      ∃ emission ∈ invocation.exposed, emission.panic? = some message) ∧
    ∃ runtime, invocation.Contained runtime procedure ∧
      ∀ inner ∈ invocation.tree, ∃ called,
        host.Invokes called inner ∧ inner.Contained runtime called := by
  obtain ⟨runtime, fuel, invoked⟩ := runs
  have contained := contained_of_invoke invoked
  refine ⟨contained.unwound_iff, runtime, contained, ?_⟩
  intro inner member
  obtain ⟨_, _, _, called, _, _, invoked'⟩ := exists_invoke_of_mem_tree invoked member
  exact ⟨called, ⟨_, _, _, _, _, _, invoked'⟩, contained_of_invoke invoked'⟩

/-- A hook panics when a nested invocation settles and when one command of a batch is issued. The
batch fails with the nested panic, and its third command still succeeds. -/
theorem Host.contains_panics_of_batch :
    let hook : Hook := ⟨[.callComplete, .command], fun record =>
      if record.trace.depth = 2 ∧ record.kind = .callComplete ∨
        record.event.command?.map Command.type = some "put" then .panic "bad" else .heard⟩
    let config : Config := ⟨none, none, ⟨[hook, .recorder]⟩⟩
    let host : Host := ⟨((Handlers.empty.insert "get" fun _ _ =>
      .sleep 5 (.settle (.ok .null))).insert "put" fun _ _ =>
      .settle (.ok .null)).insert "run" fun _ _ =>
      .call (.errand "inner" (.one (.ofType "get"))) .null .settle⟩
    let procedure : Procedure :=
      .errand "outer" (.all [.ofType "run", .ofType "put", .ofType "get"])
    ∃ invocation : LiveInvocation, host.Runs config ⟨"run"⟩ procedure .null invocation ∧
      invocation.tree.map Invocation.ending =
        [.settled (.error ⟨.panicked, "bad"⟩), .unwound "bad"] ∧
      (invocation.stages.flatMap Stage.evidence).map Dispatch.ending =
        [.settled (.error ⟨.panicked, "bad"⟩), .unwound "bad", .settled (.ok .null)] ∧
      (∀ emission ∈ invocation.exposed, emission.panic? = none) ∧
      ∃ runtime, invocation.Contained runtime procedure ∧
        ∀ inner ∈ invocation.tree, ∃ called,
          host.Invokes called inner ∧ inner.Contained runtime called := by
  intro hook config host procedure
  have ran : (invoke host.handlers default 3 (.root config ⟨"run"⟩) [] procedure .null 0).map
      (fun invocation : LiveInvocation => (invocation.tree.map Invocation.ending,
        (invocation.stages.flatMap Stage.evidence).map Dispatch.ending)) =
      some ([.settled (.error ⟨.panicked, "bad"⟩), .unwound "bad"],
        [.settled (.error ⟨.panicked, "bad"⟩), .unwound "bad", .settled (.ok .null)]) := by
    decide +kernel
  obtain ⟨invocation, invoked, shown⟩ := Option.map_eq_some_iff.mp ran
  obtain ⟨endings, dispatched⟩ := Prod.mk.inj shown
  have runs : host.Runs config ⟨"run"⟩ procedure .null invocation := ⟨_, _, invoked⟩
  obtain ⟨unwound_iff, contained⟩ := Host.contains_panics runs
  refine ⟨invocation, runs, endings, dispatched, ?_, contained⟩
  intro emission exposed
  apply Option.eq_none_iff_forall_ne_some.mpr
  intro message panics
  have unwound := (unwound_iff message).mpr ⟨emission, exposed, panics⟩
  rw [invocation.tree_eq, List.map_cons, unwound] at endings
  cases endings

end Runs

end Resumable
