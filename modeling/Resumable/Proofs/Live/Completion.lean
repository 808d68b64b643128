import Resumable.Proofs.Live.Settled

/-! # Invocations that complete

Unless a hook panics a live run goes from step to step until its computation
settles. What this says of one step (`Stage.Answered`), of the steps of an
invocation (`Proceeds`) and of an invocation (`LiveInvocation.Completes`) holds
of all invocations in the tree of the run (`completes_of_invoke`).
-/

namespace Resumable

open Json (Value)

/-- The place lies inside another, with at least one more frame. -/
def Site.Inside (inner outer : Site) : Prop :=
  ∃ frame frames, inner = { outer with stack := outer.stack ++ frame :: frames }

theorem Site.inside_enter (site : Site) (frame : Frame) : (site.enter frame).Inside site :=
  ⟨frame, [], rfl⟩

theorem Site.Inside.trans {inner middle outer : Site} (inside : inner.Inside middle)
    (inside' : middle.Inside outer) : inner.Inside outer := by
  obtain ⟨frame, frames, rfl⟩ := inside
  obtain ⟨frame', frames', rfl⟩ := inside'
  refine ⟨frame', frames' ++ frame :: frames, ?_⟩
  simp only [List.append_assoc, List.cons_append]

/-- The outcome that a suspension is given when its commands have been dispatched. -/
def Suspension.Gives : Suspension → List Dispatch → Outcome → Prop
  | .one _, dispatches, outcome =>
    ∃ dispatch, dispatches = [dispatch] ∧ dispatch.ending = .settled outcome
  | .all _, dispatches, outcome =>
    Dispatch.Gathers dispatches (Dispatch.byFinish dispatches) outcome

/-- What became of a step of an invocation at `site` that was given an outcome. -/
structure Stage.Answered (stage : Stage (List Dispatch) Empty) (site : Site) (step : Nat)
    (outcome : Outcome) : Prop where
  ending : stage.ending = .settled outcome
  numbered : stage.step = step
  size : stage.evidence.length = stage.suspension.size
  /-- Every command of the suspension is dispatched at its position. -/
  commands : ∀ (i : Nat) (command : Command), stage.suspension.commands[i]? = some command →
    ∃ dispatch result, stage.evidence[i]? = some dispatch ∧
      dispatch.Settles site command step i stage.start result
  gives : stage.suspension.Gives stage.evidence outcome
  settles : Dispatch.SettlesAt stage.evidence outcome stage.finish
  begins : stage.start ≤ stage.finish

/-- Steps that follow each other from the time `now` to `finish`; the first has
number `step`. -/
structure Proceeds (site : Site) (step now : Nat) (stages : List (Stage (List Dispatch) Empty))
    (finish : Nat) : Prop where
  answered : ∀ (n : Nat) (stage : Stage (List Dispatch) Empty), stages[n]? = some stage →
    ∃ outcome, stage.Answered site (step + n) outcome
  within : ∀ stage ∈ stages, now ≤ stage.start ∧ stage.finish ≤ finish
  ordered : stages.Pairwise fun earlier later => earlier.finish ≤ later.start
  begins : now ≤ finish

/-- An invocation that was not unwound. -/
structure LiveInvocation.Completes (invocation : LiveInvocation) (outcome : Outcome) : Prop where
  opened : invocation.opened = invocation.site.emit invocation.opened.time
    (.call invocation.procedure invocation.args (.ofMillis invocation.opened.time))
  closed : invocation.closed = some (invocation.site.emit invocation.finish
    (.callComplete invocation.procedure invocation.args (.ofMillis invocation.opened.time)
      (UInt64.ofNat invocation.stages.length)
      (.ofOutcome (.ofMillis invocation.opened.time) (.ofMillis invocation.finish) outcome)))
  ending : invocation.ending = .settled outcome
  proceeds : Proceeds invocation.site 0 invocation.opened.time invocation.stages invocation.finish
  /-- What its handlers ran lies inside it. -/
  inner : ∀ stage ∈ invocation.stages, ∀ dispatch ∈ stage.evidence, ∀ call ∈ dispatch.calls,
    ∀ nested ∈ tree call, nested.site.Inside invocation.site

variable {handlers : Handlers} {runtime : Runtime}

section Steps

variable {invoke : Site → Invoke} {site : Site} {place : Place} {holds : LiveInvocation → Prop}

/-- The step of a single command is given the outcome of the command. -/
theorem Stage.answered_of_one {dispatch : Dispatch} {command : Command} {step now : Nat}
    {outcome : Outcome} (settles : dispatch.Settles site command step 0 now outcome) :
    (⟨.one command, step, now, [dispatch], dispatch.finish, dispatch.ending⟩ :
      Stage (List Dispatch) Empty).Answered site step outcome := by
  refine ⟨settles.ending, rfl, rfl, ?_, ⟨dispatch, rfl, settles.ending⟩,
    ⟨?_, ?_⟩, settles.begins⟩
  · intro i other found
    cases i with
    | zero =>
        cases found
        exact ⟨dispatch, outcome, rfl, settles⟩
    | succ i => cases found
  · intro value _ other member
    obtain rfl := List.mem_singleton.mp member
    exact Nat.le_refl _
  · rintro failure rfl
    exact ⟨dispatch, List.mem_singleton.mpr rfl, settles.ending, Nat.le_refl _⟩

/-- The step of a batch is given what the batch gathers. -/
theorem Stage.answered_of_all {dispatches : List Dispatch} {commands : List Command}
    {step now : Nat} (indexed : dispatches.map Dispatch.index = List.range dispatches.length)
    (length : dispatches.length = commands.length)
    (settles : ∀ (i : Nat) (dispatch : Dispatch), dispatches[i]? = some dispatch →
      ∃ command result, commands[i]? = some command ∧
        dispatch.Settles site command step i now result) :
    (⟨.all commands, step, now, dispatches, Dispatch.batchFinish now dispatches,
      .settled (Dispatch.batchOutcome dispatches)⟩ : Stage (List Dispatch) Empty).Answered site
        step (Dispatch.batchOutcome dispatches) := by
  have each : ∀ dispatch ∈ dispatches, ∃ result, dispatch.ending = .settled result ∧
      now ≤ dispatch.finish := by
    intro dispatch member
    obtain ⟨i, found⟩ := List.mem_iff_getElem?.mp member
    obtain ⟨command, result, _, settled⟩ := settles i dispatch found
    exact ⟨result, settled.ending, settled.begins⟩
  have kept : ∀ dispatch ∈ dispatches, ¬ dispatch.Lost := by
    rintro dispatch member ⟨message, unwound⟩
    obtain ⟨result, ending, _⟩ := each dispatch member
    rw [ending] at unwound
    cases unwound
  have begins : ∀ dispatch ∈ dispatches, now ≤ dispatch.finish := by
    intro dispatch member
    obtain ⟨_, _, later⟩ := each dispatch member
    exact later
  have gathers := Dispatch.gathers_batchOutcome indexed
  obtain ⟨finishes, later⟩ := Dispatch.settlesAt_batchFinish kept begins gathers
  refine ⟨rfl, rfl, length, ?_, gathers, finishes, later⟩
  intro i command commanded
  have inside : i < dispatches.length := by
    rw [length]
    exact (List.getElem?_eq_some_iff.mp commanded).1
  have found := List.getElem?_eq_getElem inside
  obtain ⟨other, result, commanded', settled⟩ := settles i _ found
  obtain rfl := Option.some.inj (commanded.symm.trans commanded')
  exact ⟨dispatches[i], result, found, settled⟩

/-- A suspension whose commands are calm is given an outcome. -/
theorem Stage.answered_of_suspension (makes : (invoke site).Makes holds)
    {suspension : Suspension} {step now : Nat} {performed : Performance Unit (List Dispatch) Empty}
    (performs : Dispatch.suspension handlers runtime invoke site place suspension step 0 now =
      some performed)
    (calm : ∀ dispatch ∈ performed.evidence, dispatch.Calm) :
    (∃ outcome, (⟨suspension, step, now, performed.evidence, performed.finish, performed.ending⟩ :
      Stage (List Dispatch) Empty).Answered site step outcome) ∧
      ∀ dispatch ∈ performed.evidence, ∀ call ∈ dispatch.calls, holds call := by
  cases suspension with
  | one command =>
      simp only [Dispatch.suspension, Option.bind_eq_bind, Option.bind_eq_some_iff,
        Option.pure_def, Option.some.injEq] at performs
      obtain ⟨dispatch, issued, rfl⟩ := performs
      obtain ⟨⟨outcome, settles⟩, calls⟩ := Dispatch.settles_of_one makes issued
        (calm dispatch List.mem_cons_self)
      refine ⟨⟨outcome, answered_of_one settles⟩, ?_⟩
      intro other member
      obtain rfl := List.mem_singleton.mp member
      exact calls
  | all commands =>
      simp only [Dispatch.suspension, Option.bind_eq_bind, Option.bind_eq_some_iff,
        Option.pure_def, Option.some.injEq] at performs
      obtain ⟨dispatches, issued, rfl⟩ := performs
      have settles : ∀ (i : Nat) (dispatch : Dispatch), dispatches[i]? = some dispatch →
          (∃ command result, commands[i]? = some command ∧
            dispatch.Settles site command step i now result) ∧
          ∀ call ∈ dispatch.calls, holds call := by
        intro i dispatch found
        obtain ⟨command, commanded, one⟩ := Dispatch.exists_one_of_getElem? issued found
        obtain ⟨⟨result, settled⟩, calls⟩ := Dispatch.settles_of_one makes one
          (calm dispatch (List.mem_of_getElem? found))
        exact ⟨⟨command, result, commanded, settled⟩, calls⟩
      refine ⟨⟨_, answered_of_all (Dispatch.map_index_of_all issued) (Dispatch.all_eq_some issued).1
        fun i dispatch found => (settles i dispatch found).1⟩, ?_⟩
      intro dispatch member
      obtain ⟨i, found⟩ := List.mem_iff_getElem?.mp member
      exact (settles i dispatch found).2

/-- The steps of a computation follow each other until it settles if its commands are calm. -/
theorem proceeds_of_course (makes : (invoke site).Makes holds)
    {τ : Type} {move : τ → Input → Step × τ} {step now : Nat} {own last : Unit} {state : τ}
    {input : Input} {stages : List (Stage (List Dispatch) Empty)} {finale : Finale Empty}
    (course : (handling handlers runtime invoke place).Course site move step own state input now
      stages finale last)
    (calm : ∀ stage ∈ stages, ∀ dispatch ∈ stage.evidence, dispatch.Calm) :
    (∃ outcome, finale.ending = .settled outcome) ∧
      Proceeds site step now stages finale.finish ∧
      ∀ stage ∈ stages, ∀ dispatch ∈ stage.evidence, ∀ call ∈ dispatch.calls, holds call := by
  induction course with
  | @done step now own state after input value answer =>
      exact ⟨⟨.ok value, rfl⟩, ⟨nofun, nofun, .nil, Nat.le_refl _⟩, nofun⟩
  | @failed step now own state after input failure answer =>
      exact ⟨⟨.error failure, rfl⟩, ⟨nofun, nofun, .nil, Nat.le_refl _⟩, nofun⟩
  | stopped answer performs stops =>
      obtain ⟨⟨outcome, answered⟩, _⟩ := Stage.answered_of_suspension makes performs
        (calm _ List.mem_cons_self)
      exact absurd answered.ending (stops outcome)
  | @resumed step now own last state after input suspension performed outcome stages finale
      answer performs settles rest ih =>
      obtain ⟨⟨given, answered⟩, here⟩ := Stage.answered_of_suspension makes performs
        (calm _ List.mem_cons_self)
      obtain ⟨ends, proceeds, calls⟩ := ih fun stage member =>
        calm stage (List.mem_cons_of_mem _ member)
      refine ⟨ends, ⟨?_, ?_, ?_, ?_⟩, ?_⟩
      · intro n stage found
        cases n with
        | zero =>
            cases found
            exact ⟨given, answered⟩
        | succ n =>
            have later := proceeds.answered n stage found
            rwa [show step + 1 + n = step + (n + 1) by omega] at later
      · intro stage member
        have begins : now ≤ performed.finish := answered.begins
        rcases List.mem_cons.mp member with rfl | member
        · exact ⟨Nat.le_refl _, proceeds.begins⟩
        · obtain ⟨later, within⟩ := proceeds.within stage member
          exact ⟨Nat.le_trans begins later, within⟩
      · refine List.pairwise_cons.mpr ⟨fun stage member => ?_, proceeds.ordered⟩
        exact (proceeds.within stage member).1
      · exact Nat.le_trans answered.begins proceeds.begins
      · intro stage member
        rcases List.mem_cons.mp member with rfl | member
        · exact here
        · exact calls stage member

end Steps

/-- An invocation on whose records no hook panicked went through the course of a
fresh computation. -/
theorem exists_course_of_invoke {fuel : Nat} {parent : Site} {place : Place} {procedure : Procedure}
    {args : Value} {now : Nat} {invocation : LiveInvocation}
    (found : invoke handlers runtime (fuel + 1) parent place procedure args now = some invocation)
    (calm : ∀ emission ∈ invocation.own, emission.panic? = none) :
    let site := parent.enter ⟨procedure.name, args, handlers.types⟩
    let performer := handling handlers runtime (invoke handlers runtime fuel) place
    ∃ stages finale, performer.Course site procedure.move 0 () (procedure.initial args) .start now
        stages finale () ∧
      invocation = performer.finished site procedure.name args now stages finale := by
  unfold Resumable.invoke at found
  obtain ⟨⟨_, _⟩, invoked, rfl⟩ := Option.map_eq_some_iff.mp found
  obtain ⟨stages, finale, staged, rfl⟩ := Performer.finished_of_invoke _ invoked
    (calm _ List.mem_cons_self) fun emission closed => calm emission <| by
      refine List.mem_cons_of_mem _ (List.mem_append_right _ ?_)
      exact Option.mem_toList.mpr closed
  exact ⟨stages, finale, Performer.course_of_start staged, rfl⟩

/-- **The tree of a live run.** Unless a hook panics every invocation of it completes,
and lies inside the place that the run was started from. -/
theorem completes_of_invoke {fuel : Nat} {parent : Site} {place : Place} {procedure : Procedure}
    {args : Value} {now : Nat} {invocation : LiveInvocation}
    (found : invoke handlers runtime fuel parent place procedure args now = some invocation)
    (calm : invocation.Calm) :
    now ≤ invocation.finish ∧
      ∀ inner ∈ invocation.tree, (∃ outcome, inner.Completes outcome) ∧
        inner.site.Inside parent := by
  induction fuel generalizing parent place procedure args now invocation with
  | zero => cases found
  | succ fuel ih =>
      obtain ⟨stages, finale, course, rfl⟩ := exists_course_of_invoke found calm.own
      obtain ⟨⟨outcome, ending⟩, proceeds, calls⟩ := proceeds_of_course
        (fun place procedure args now call called calm => ih called calm) course
        fun stage staged dispatch issued => calm.dispatch staged issued
      have steps := course.steps_eq ending
      rw [Nat.zero_add] at steps
      refine ⟨proceeds.begins, ?_⟩
      intro inner member
      rcases LiveInvocation.mem_tree_iff.mp member with rfl | ⟨stage, staged, dispatch, issued,
        call, called, member⟩
      · refine ⟨⟨outcome, rfl, ?_, ending, proceeds, ?_⟩, parent.inside_enter _⟩
        · simp only [Performer.finished, Performer.closing, ending, Performer.reported?,
            Option.map_some, steps, Site.emit_time]
        · intro stage staged dispatch issued call called inner member
          exact (calls stage staged dispatch issued call called inner member).2
      · obtain ⟨completes, inside⟩ := calls stage staged dispatch issued call called inner member
        exact ⟨completes, inside.trans (parent.inside_enter _)⟩

end Resumable
