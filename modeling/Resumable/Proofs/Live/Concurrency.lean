import Resumable.Proofs.Live.Containment
import Resumable.Proofs.Live.Fuel
import Resumable.Proofs.Live.Pace

/-! # Batches are concurrent

Dispatched alone, a command takes some time and comes to an outcome (`Host.Alone`). If these depend
on nothing but the command, the site where it is issued and what is said of tasks that die because
of it (`Host.Steady`), then the commands of a batch run side by side, each as if it was alone: all
are issued when the batch is performed, each settles when it would alone, and the computation is
resumed when the first of them has failed, or else when the last one has succeeded
(`Host.batches_are_concurrent`). A command that is still running when its batch has failed settles
at its own time, whatever the computation does meanwhile.
-/

namespace Resumable

open Json (Value)

/-- The records of a command with this span that was issued at `start`. -/
def Span.emissions (span : Span) (site : Site) (command : Command) (step index start : Nat) :
    List Emission :=
  let finish := start + span.duration
  [site.emit start
      (.command command (UInt64.ofNat step) (UInt64.ofNat index) (.ofMillis start)),
    site.emit finish
      (.commandComplete command (UInt64.ofNat step) (UInt64.ofNat index) (.ofMillis start)
        (.ofOutcome (.ofMillis start) (.ofMillis finish) span.outcome))]

/-- When a computation is resumed after its step `n`: when the next step begins, or else when the
invocation settles. -/
def LiveInvocation.resumedAfter (invocation : LiveInvocation) (n : Nat) : Nat :=
  (invocation.stages[n + 1]?.map Stage.start).getD invocation.finish

namespace Host

/-- Dispatched alone at a place, with this runtime, the command has this span. -/
def Alone (host : Host) (runtime : Runtime) (place : Place) (step index : Nat) (site : Site)
    (command : Command) (span : Span) : Prop :=
  ∃ fuel dispatch,
    Dispatch.one host.handlers runtime (invoke host.handlers runtime fuel) site place command
      step index 0 = some dispatch ∧
    dispatch.Takes 0 span

/-- Dispatched alone, the command has this span wherever it is and whatever counters give, if this
is said of its task and of those below it when they die. -/
def Lasts (host : Host) (describe : Death → String) (site : Site) (command : Command)
    (span : Span) : Prop :=
  ∀ runtime place step index, runtime.below (place ++ [step, index]) = describe →
    host.Alone runtime place step index site command span

/-- What a command takes and comes to depends on nothing but the command, its site and what is said
of its task and of those below it. -/
def Steady (host : Host) (config : Config) : Prop :=
  ∀ runtime place step index site command span, site.config = config →
    host.Alone runtime place step index site command span →
      host.Lasts (runtime.below (place ++ [step, index])) site command span

/-- The host performs a suspension somewhere in a run. -/
def Performs (host : Host) (runtime : Runtime) (site : Site) (suspension : Suspension)
    (step now : Nat) (performed : Performance Unit (List Dispatch) Empty) : Prop :=
  ∃ fuel place index,
    Dispatch.suspension host.handlers runtime (invoke host.handlers runtime fuel) site place
      suspension step index now = some performed

/-- A batch that was performed at `start`: its commands have these spans, and ran side by side. -/
structure SideBySide (host : Host) (runtime : Runtime) (site : Site) (commands : List Command)
    (step start : Nat) (performed : Performance Unit (List Dispatch) Empty) (spans : List Span) :
    Prop where
  sizes : performed.evidence.length = commands.length ∧ spans.length = commands.length
  /-- Every command is issued with the batch, and settles when it would alone. -/
  each : ∀ (i : Nat) (command : Command), commands[i]? = some command →
    ∃ span dispatch, spans[i]? = some span ∧ performed.evidence[i]? = some dispatch ∧
      host.Lasts (runtime.below dispatch.place) site command span ∧
      dispatch.own = span.emissions site command step i start
  /-- A command without a handler fails at once. -/
  missing : ∀ (i : Nat) (command : Command), commands[i]? = some command →
    host.handlers.get? command.type = none →
      spans[i]? = some ⟨0, .error (.noHandler command.type)⟩
  finish : performed.finish = start + Span.together spans
  ending : performed.ending = .settled (Span.gathered spans)

variable {host : Host} {config : Config} {site : Site} {command : Command}

section Spans

variable {runtime : Runtime} {place : Place} {step index : Nat}

/-- A command takes as long whenever it is issued. -/
theorem exists_one_at (quiet : site.config.hooks.Quiet) {fuel now : Nat} {dispatch : Dispatch}
    (issued : Dispatch.one host.handlers runtime (invoke host.handlers runtime fuel) site place
      command step index now = some dispatch) (now' : Nat) :
    ∃ dispatch' span,
      Dispatch.one host.handlers runtime (invoke host.handlers runtime fuel) site place command
        step index now' = some dispatch' ∧
      dispatch.Takes now span ∧ dispatch'.Takes now' span :=
  Dispatch.exists_span_of_one quiet
    (fun _ => invoke_inStep quiet Handlers.indifferent_refl) Handlers.indifferent_refl issued now'

/-- A command without a handler fails as soon as it is issued. -/
theorem takes_of_missing (quiet : site.config.hooks.Quiet)
    (missing : host.handlers.get? command.type = none) {fuel now : Nat} {dispatch : Dispatch}
    (issued : Dispatch.one host.handlers runtime (invoke host.handlers runtime fuel) site place
      command step index now = some dispatch) :
    dispatch.Takes now ⟨0, .error (.noHandler command.type)⟩ := by
  simp only [Dispatch.one_of_quiet quiet, Dispatch.handle, missing, Option.map_some,
    Option.some.injEq] at issued
  subst issued
  exact ⟨rfl, rfl⟩

/-- Heedless handlers are steady. -/
theorem steady_of_heedless (heedless : host.handlers.Heedless) (quiet : config.hooks.Quiet) :
    host.Steady config := by
  intro runtime place step index site command span same alone runtime' place' step' index' described
  have quiet : site.config.hooks.Quiet := same ▸ quiet
  have indifferent : host.handlers.Indifferent runtime runtime' (place ++ [step, index])
      (place' ++ [step', index']) := ⟨.inl heedless, described⟩
  obtain ⟨fuel, dispatch, issued, takes⟩ := alone
  obtain ⟨elsewhere, common, issued', takes', takes''⟩ := Dispatch.exists_span_of_one quiet
    (fun rest => invoke_inStep quiet (indifferent.below rest)) indifferent issued 0
  obtain rfl := takes.unique takes'
  exact ⟨fuel, elsewhere, issued', takes''⟩

end Spans

section Performed

variable (quiet : config.hooks.Quiet) (steady : host.Steady config)
include quiet steady

/-- A command that is issued at any time takes what it takes alone, as its records tell. -/
theorem exists_lasts_of_one (same : site.config = config) {runtime : Runtime} {fuel : Nat}
    {place : Place} {step index now : Nat} {dispatch : Dispatch}
    (issued : Dispatch.one host.handlers runtime (invoke host.handlers runtime fuel) site place
      command step index now = some dispatch) :
    ∃ span, host.Lasts (runtime.below dispatch.place) site command span ∧
      dispatch.Takes now span ∧ dispatch.own = span.emissions site command step index now := by
  have quiet' : site.config.hooks.Quiet := same ▸ quiet
  obtain ⟨alone, span, issued', takes, takes'⟩ := exists_one_at quiet' issued 0
  have lasts := steady runtime place step index site command span same
    ⟨fuel, alone, issued', takes'⟩
  rw [Dispatch.one_of_quiet quiet'] at issued
  obtain ⟨played, _, rfl⟩ := Option.map_eq_some_iff.mp issued
  refine ⟨span, lasts, takes, ?_⟩
  have finish : played.finish = now + span.duration := takes.finish
  have outcome : Dispatch.taskOutcome runtime (place ++ [step, index]) played.result =
      span.outcome :=
    Ending.settled.inj takes.ending
  simp only [Dispatch.own, Dispatch.answered, Span.emissions, finish, outcome, Option.toList_some]

/-- **The commands of a batch run side by side**, wherever and whenever the batch is performed. -/
theorem exists_sideBySide (same : site.config = config) {runtime : Runtime}
    {commands : List Command} {step now : Nat}
    {performed : Performance Unit (List Dispatch) Empty}
    (performs : host.Performs runtime site (.all commands) step now performed) :
    ∃ spans, host.SideBySide runtime site commands step now performed spans := by
  obtain ⟨fuel, place, index, performs⟩ := performs
  obtain ⟨dispatches, issued, made⟩ := Option.bind_eq_some_iff.mp performs
  obtain rfl := Option.some.inj made
  have each : ∀ dispatch ∈ dispatches, ∃ span,
      host.Lasts (runtime.below dispatch.place) site dispatch.command span ∧
      dispatch.Takes now span ∧
      dispatch.own = span.emissions site dispatch.command step dispatch.index now := by
    intro dispatch member
    obtain ⟨i, listed⟩ := List.mem_iff_getElem?.mp member
    obtain ⟨command, _, made⟩ := Dispatch.exists_one_of_getElem? issued listed
    obtain ⟨rfl, _, rfl⟩ := Dispatch.one_eq_some made
    exact exists_lasts_of_one quiet steady same made
  have : Nonempty Span := ⟨⟨0, .ok .null⟩⟩
  choose! span lasts takes own using each
  have taken : List.Forall₂ (Dispatch.Takes now) dispatches (dispatches.map span) :=
    List.forall₂_map_right_iff.mpr (List.forall₂_same.mpr takes)
  have side : ∀ (i : Nat) (command : Command), commands[i]? = some command →
      ∃ lasting dispatch, (dispatches.map span)[i]? = some lasting ∧
        dispatches[i]? = some dispatch ∧
        host.Lasts (runtime.below dispatch.place) site command lasting ∧
        dispatch.own = lasting.emissions site command step i now := by
    intro i command commanded
    obtain ⟨dispatch, listed, made⟩ := Dispatch.exists_getElem?_of_all issued commanded
    obtain ⟨rfl, _, rfl⟩ := Dispatch.one_eq_some made
    have member := List.mem_of_getElem? listed
    refine ⟨span dispatch, dispatch, ?_, listed, lasts dispatch member, own dispatch member⟩
    rw [List.getElem?_map, listed, Option.map_some]
  have length := (Dispatch.all_eq_some issued).1
  refine ⟨dispatches.map span, ⟨length, (List.length_map span).trans length⟩, side, ?_,
    Dispatch.batchFinish_of_takes taken, congrArg Ending.settled
      (Dispatch.batchOutcome_of_takes taken (Dispatch.map_index_of_all issued))⟩
  intro i command commanded missing
  obtain ⟨dispatch, listed, made⟩ := Dispatch.exists_getElem?_of_all issued commanded
  have fails := takes_of_missing (same ▸ quiet) missing made
  rw [List.getElem?_map, listed, Option.map_some,
    (takes dispatch (List.mem_of_getElem? listed)).unique fails]

/-- The loop of an invocation goes on from a batch when the batch settles. -/
theorem resumes_of_moves (same : site.config = config) {runtime : Runtime} {fuel : Nat}
    {place : Place} {τ : Type} {move : τ → Input → Step × τ} {session : Session τ}
    {commands : List Command} {now : Nat} {act : Performer.Act (List Dispatch) Empty}
    {next : Performer.Point τ Unit Empty}
    (moves : (handling host.handlers runtime (invoke host.handlers runtime fuel) place).Moves
      site move (.performing session (.all commands) () now) act next) :
    ∃ performed spans, host.SideBySide runtime site commands session.steps now performed spans ∧
      act = .performs ⟨.all commands, session.steps, now, performed.evidence, performed.finish,
        performed.ending⟩ ∧
      next = .resuming session (.ofOutcome (Span.gathered spans)) ()
        (now + Span.together spans) := by
  cases moves with
  | @resumed _ _ _ _ performed outcome performs gives =>
      obtain ⟨spans, side⟩ := exists_sideBySide quiet steady same
        ⟨fuel, place, 0, performs⟩
      obtain rfl : outcome = Span.gathered spans :=
        Ending.settled.inj (gives.symm.trans side.ending)
      exact ⟨performed, spans, side, rfl, by rw [side.finish]⟩
  | stopped performs stops =>
      obtain ⟨spans, side⟩ := exists_sideBySide quiet steady same
        ⟨fuel, place, 0, performs⟩
      exact absurd side.ending (stops _)

end Performed

/-- A batch is performed if each of its commands would settle alone. -/
theorem exists_performed (quiet : site.config.hooks.Quiet) {runtime : Runtime} {place : Place}
    {commands : List Command} {step : Nat}
    (each : ∀ (i : Nat) (command : Command), commands[i]? = some command →
      ∃ span, host.Alone runtime place step i site command span) (now : Nat) :
    ∃ fuel performed, Dispatch.suspension host.handlers runtime
      (invoke host.handlers runtime fuel) site place (.all commands) step 0 now =
        some performed := by
  obtain ⟨fuel, dispatches, issued⟩ := Dispatch.exists_fuel_all fun i command commanded => by
    obtain ⟨_, fuel, dispatch, issued, _⟩ := each i command commanded
    obtain ⟨later, _, issued', _, _⟩ := exists_one_at quiet issued now
    exact ⟨fuel, later, issued'⟩
  exact ⟨fuel, _, Option.bind_eq_some_iff.mpr ⟨dispatches, issued, rfl⟩⟩

/-- The steps of an invocation are performed by its host, and no time passes before the computation
is resumed. -/
theorem performs_of_invoke {runtime : Runtime} {fuel : Nat} {parent : Site} {place : Place}
    {procedure : Procedure} {args : Value} {now : Nat} {invocation : LiveInvocation}
    (quiet : parent.config.hooks.Quiet)
    (invoked : invoke host.handlers runtime fuel parent place procedure args now =
      some invocation) {n : Nat} {stage : Stage (List Dispatch) Empty}
    (staged : invocation.stages[n]? = some stage) :
    host.Performs runtime invocation.site stage.suspension n stage.start
        ⟨(), stage.evidence, stage.finish, stage.ending⟩ ∧
      invocation.resumedAfter n = stage.finish := by
  cases fuel with
  | zero => cases invoked
  | succ fuel =>
      have quiet' : (parent.enter ⟨procedure.name, args, host.handlers.types⟩).config.hooks.Quiet :=
        quiet
      unfold invoke at invoked
      simp only [Performer.invoke_of_quiet _ quiet', Option.map_map] at invoked
      obtain ⟨⟨stages, finale, _⟩, found, rfl⟩ := Option.map_eq_some_iff.mp invoked
      have course := Performer.course_of_start found
      obtain ⟨numbered, _, _, performs⟩ := course.performed staged
      rw [Nat.zero_add] at numbered
      rw [numbered] at performs
      exact ⟨⟨fuel, place, 0, performs⟩, course.follows staged⟩

/-- **Batches are concurrent, and settle at the right moment.** Let no hook panic, and let what
commands take and come to depend on nothing but the command, its site and what is said of tasks
that die. Then a batch is performed if each of its commands would settle alone, and its commands
run side by side wherever and whenever it is. The loop of an invocation, whether or not it comes to
an end, resumes its computation as soon as a command has failed, or else when all have succeeded. So
does each invocation of the tree of a run, and the records of commands that are still running then
are emitted all the same. -/
theorem batches_are_concurrent (host : Host) {config : Config} (quiet : config.hooks.Quiet)
    (steady : host.Steady config) :
    (∀ runtime site place commands step now, site.config = config →
      (∀ (i : Nat) (command : Command), commands[i]? = some command →
        ∃ span, host.Alone runtime place step i site command span) →
          ∃ fuel performed, Dispatch.suspension host.handlers runtime
            (invoke host.handlers runtime fuel) site place (.all commands) step 0 now =
              some performed) ∧
    (∀ runtime site commands step now performed, site.config = config →
      host.Performs runtime site (.all commands) step now performed →
        ∃ spans, host.SideBySide runtime site commands step now performed spans) ∧
    (∀ runtime fuel place site (procedure : Procedure) (session : Session procedure.State)
        commands now act next, site.config = config →
      (handling host.handlers runtime (invoke host.handlers runtime fuel) place).Moves site
          procedure.move (.performing session (.all commands) () now) act next →
        ∃ performed spans,
          host.SideBySide runtime site commands session.steps now performed spans ∧
          act = .performs ⟨.all commands, session.steps, now, performed.evidence,
            performed.finish, performed.ending⟩ ∧
          next = .resuming session (.ofOutcome (Span.gathered spans)) ()
            (now + Span.together spans)) ∧
    ∀ runtime fuel fresh procedure args invocation,
      invoke host.handlers runtime fuel (.root config fresh) [] procedure args 0 =
          some invocation →
      ∀ inner ∈ invocation.tree, ∀ n stage commands,
        inner.stages[n]? = some stage → stage.suspension = .all commands →
          (∃ spans, host.SideBySide runtime inner.site commands n stage.start
              ⟨(), stage.evidence, stage.finish, stage.ending⟩ spans ∧
            inner.resumedAfter n = stage.start + Span.together spans) ∧
          ∀ emission ∈ stage.own, emission ∈ timeline invocation.emissions := by
  refine ⟨?_, ?_, ?_, ?_⟩
  · intro runtime site place commands step now same each
    exact exists_performed (same ▸ quiet) each now
  · intro runtime site commands step now performed same performs
    exact exists_sideBySide quiet steady same performs
  · intro runtime fuel place site procedure session commands now act next same moves
    exact resumes_of_moves quiet steady same moves
  · intro runtime fuel fresh procedure args invocation invoked inner member n stage commands staged
      suspended
    have rooted := rooted_of_invoke invoked
    obtain ⟨address, reached⟩ := rooted.exists_at? member
    have same : inner.site.config = config := congrArg Site.config (rooted.at? reached).1
    obtain ⟨_, parent, _, _, _, _, invoked'⟩ := exists_invoke_of_mem_tree invoked member
    have same' : parent.config = inner.site.config := by
      rw [(place_of_invoke invoked').1]
      rfl
    obtain ⟨performs, resumed⟩ := performs_of_invoke (same'.trans same ▸ quiet) invoked' staged
    rw [suspended] at performs
    obtain ⟨spans, side⟩ := exists_sideBySide quiet steady same performs
    refine ⟨⟨spans, side, resumed.trans side.finish⟩, ?_⟩
    intro emission own
    refine (chronological_perm _ _).mem_iff.mpr
      (LiveInvocation.mem_emissions_iff.mpr ⟨inner, member, ?_⟩)
    refine List.mem_cons_of_mem _ (List.mem_append_left _ ?_)
    exact List.mem_flatMap.mpr ⟨stage, List.mem_of_getElem? staged, own⟩

/-- A command fails while another one is running, and so is a handler whose own run performs a
batch: the outer computation is resumed with the failure, and both settle later. -/
theorem batches_are_concurrent_in_race :
    let config : Config := ⟨none, none, ⟨[.recorder]⟩⟩
    let host : Host := ⟨((Handlers.empty.insert "get" fun _ _ =>
      .sleep 5 (.settle (.ok .null))).insert "put" fun _ _ =>
      .sleep 2 (.settle (.error ⟨.handler, "lost"⟩))).insert "run" fun _ _ =>
      .sleep 1 (.call (.errand "inner" (.all [.ofType "get", .ofType "get"])) .null .settle)⟩
    let procedure : Procedure :=
      .errand "outer" (.all [.ofType "get", .ofType "put", .ofType "run"])
    config.hooks.Quiet ∧ host.Steady config ∧
    ∃ invocation : LiveInvocation,
      invoke host.handlers default 3 (.root config ⟨"run"⟩) [] procedure .null 0 =
        some invocation ∧
      (invocation.tree.map fun inner => inner.stages.map fun stage =>
        (stage.start, stage.finish, stage.evidence.map Dispatch.finish)) =
        [[(0, 2, [5, 2, 6])], [(1, 6, [6, 6])]] ∧
      ∀ inner ∈ invocation.tree, ∀ n stage commands,
        inner.stages[n]? = some stage → stage.suspension = .all commands →
          (∃ spans, host.SideBySide default inner.site commands n stage.start
              ⟨(), stage.evidence, stage.finish, stage.ending⟩ spans ∧
            inner.resumedAfter n = stage.start + Span.together spans) ∧
          ∀ emission ∈ stage.own, emission ∈ timeline invocation.emissions := by
  intro config host procedure
  have quiet : config.hooks.Quiet := Hooks.quiet_recorder
  have heedless : host.handlers.Heedless :=
    List.forall_mem_cons.mpr ⟨fun _ _ => trivial, List.forall_mem_cons.mpr ⟨fun _ _ => trivial,
      List.forall_mem_singleton.mpr fun _ _ _ => trivial⟩⟩
  have steady := steady_of_heedless heedless quiet
  have ran : (invoke host.handlers default 3 (.root config ⟨"run"⟩) [] procedure .null 0).map
      (fun invocation : LiveInvocation =>
        invocation.tree.map fun inner => inner.stages.map fun stage =>
          (stage.start, stage.finish, stage.evidence.map Dispatch.finish)) =
      some [[(0, 2, [5, 2, 6])], [(1, 6, [6, 6])]] := by
    decide +kernel
  obtain ⟨invocation, invoked, shown⟩ := Option.map_eq_some_iff.mp ran
  obtain ⟨_, _, _, concurrent⟩ := batches_are_concurrent host quiet steady
  exact ⟨quiet, steady, invocation, invoked, shown, concurrent _ _ _ _ _ _ invoked⟩

end Host

end Resumable
