import Resumable.Proofs.Live.Recasting

/-! # Hooks observe and never interfere

A record that no hook panics on is heard by all hooks that hear its kind, in the order of their
registration (`Hooks.heard_deliver`), and offering it only when there are such hooks is the same as
delivering it to all of them (`Site.emit_eq`). So a run with other hooks is the same run with its
records delivered to these (`Recasting.heardBy_fits`): what it comes to, what its handlers are asked
and what it records (`LiveRun.conduct`) do not depend on the hooks, and each hook observes those of
the records whose kind it hears (`Host.hooks_never_interfere`).
-/

namespace Resumable

open Json (Value)

section Delivered

variable {record : Record}

/-- The hooks that hear a record on which none of them panics are those that hear its kind. -/
theorem Hooks.heard_deliverFrom {start : Nat} {list : List Hook}
    (calm : (deliverFrom record start list).panic = none) :
    (deliverFrom record start list).heard =
      ((list.zipIdx start).filter fun entry => entry.1.hears record.kind).map Prod.snd := by
  induction list generalizing start with
  | nil => rfl
  | cons hook rest ih =>
      rw [deliverFrom] at calm ⊢
      rw [List.zipIdx_cons, List.filter_cons]
      by_cases hears : hook.hears record.kind = true
      · simp only [hears, ↓reduceIte, List.map_cons] at calm ⊢
        cases replied : hook.reply record with
        | panic message =>
            rw [replied] at calm
            cases calm
        | heard =>
            rw [replied] at calm
            exact congrArg (start :: ·) (ih calm)
        | error error =>
            rw [replied] at calm
            exact congrArg (start :: ·) (ih calm)
      · simp only [hears, Bool.false_eq_true, ↓reduceIte] at calm ⊢
        exact ih calm

/-- Hooks hear a record in the order of their registration, each at most once, and exactly those
that hear its kind. -/
theorem Hooks.heard_deliver {hooks : Hooks} (quiet : hooks.Quiet) (record : Record) :
    (hooks.deliver record).heard.Pairwise (· < ·) ∧
      ∀ position, position ∈ (hooks.deliver record).heard ↔
        ∃ hook, hooks.toList[position]? = some hook ∧ hook.hears record.kind = true := by
  rw [deliver, heard_deliverFrom (quiet record)]
  refine ⟨?_, ?_⟩
  · have ordered : (hooks.toList.zipIdx.map Prod.snd).Pairwise (· < ·) := by
      rw [List.zipIdx_map_snd]
      exact List.pairwise_lt_range'
    exact ordered.sublist (List.filter_sublist.map Prod.snd)
  · intro position
    simp only [List.mem_map, List.mem_filter, Prod.exists, exists_eq_right,
      List.mem_zipIdx_iff_getElem?]

/-- Nobody hears a record whose kind nobody hears. -/
theorem Hooks.deliverFrom_of_not_hears {list : List Hook} (position : Nat)
    (silent : ∀ hook ∈ list, ¬ hook.hears record.kind = true) :
    deliverFrom record position list = .none := by
  induction list generalizing position with
  | nil => rfl
  | cons hook rest ih =>
      rw [deliverFrom, if_neg (silent hook List.mem_cons_self)]
      exact ih (position + 1) fun other member => silent other (List.mem_cons_of_mem _ member)

/-- To emit an event is to deliver its record to all hooks, whether or not any of them hears it. -/
theorem Site.emit_eq (site : Site) (now : Nat) (event : Event) :
    site.emit now event =
      ⟨⟨site.trace, event⟩, now, site.config.hooks.deliver ⟨site.trace, event⟩⟩ := by
  unfold emit offer?
  by_cases hears : site.config.hooks.hears event.kind = true
  · rw [if_pos hears, Option.getD_some]
  · rw [if_neg hears, Option.getD_none]
    have silent : site.config.hooks.deliver ⟨site.trace, event⟩ = .none := by
      apply Hooks.deliverFrom_of_not_hears
      intro hook member heard
      exact hears (List.any_eq_true.mpr ⟨hook, member, heard⟩)
    rw [silent]

end Delivered

/-- The place with other hooks. -/
def Site.withHooks (site : Site) (hooks : Hooks) : Site :=
  { site with config := { site.config with hooks := hooks } }

/-- The handler does the same whatever hooks there are. -/
def Handler.BlindToHooks (handler : Handler) : Prop :=
  ∀ command types site hooks,
    handler command ⟨types, Site.withHooks site hooks⟩ = handler command ⟨types, site⟩

/-- Replaces the hooks of sites and delivers records to these. -/
def Recasting.heardBy (hooks : Hooks) : Recasting where
  site := fun site => site.withHooks hooks
  emission := fun emission => { emission with delivery := hooks.deliver emission.record }
  time := fun _ => rfl

/-- Handlers that do not look at hooks do the same with other hooks. -/
theorem Handlers.activity_withHooks {handlers : Handlers}
    (blind : ∀ entry ∈ handlers.toList, entry.2.BlindToHooks) (command : Command) (site : Site)
    (hooks : Hooks) :
    handlers.activity command (site.withHooks hooks) = handlers.activity command site := by
  unfold activity
  cases found : handlers.get? command.type with
  | none => rfl
  | some handler => exact blind _ (mem_of_get? found) command handlers.types site hooks

/-- **Quiet hooks may be exchanged.** Where hooks are quiet handlers that do not look at them do not
notice that they are replaced. -/
theorem Recasting.heardBy_fits {handlers : Handlers} {hooks : Hooks}
    (blind : ∀ entry ∈ handlers.toList, entry.2.BlindToHooks) (quiet : hooks.Quiet) :
    (heardBy hooks).Fits handlers handlers fun site => site.config.hooks.Quiet where
  stays := fun _ calm _ _ => calm
  enter := fun _ _ _ _ => rfl
  emit := by
    intro site _ now event
    rw [Site.emit_eq, Site.emit_eq]
    rfl
  panic? := by
    intro site calm now event
    rw [Site.emit_panic? calm]
    exact Site.emit_panic? quiet now event
  activity := fun site _ command => Handlers.activity_withHooks blind command site hooks

/-- What the handler of a command is asked. -/
structure Request where
  /-- The trace of the place that issued the command. -/
  trace : Trace
  command : Command
  time : Nat
deriving DecidableEq

/-- What the command's handler is asked, if it has one and no hook panics before. -/
def Dispatch.request? (handlers : Handlers) (site : Site) (dispatch : Dispatch) : Option Request :=
  if dispatch.opened.panic? = none ∧ handlers.contains dispatch.command.type = true then
    some ⟨site.trace, dispatch.command, dispatch.opened.time⟩
  else none

/-- What handlers are asked in the tree of an invocation. -/
def LiveInvocation.requests (handlers : Handlers) (invocation : LiveInvocation) : List Request :=
  invocation.tree.flatMap fun inner =>
    inner.stages.flatMap fun stage =>
      stage.evidence.filterMap (Dispatch.request? handlers inner.site)

/-- What a run comes to and what it does, apart from what hooks make of it. -/
structure Conduct where
  ending : Ending Empty
  abandoned : Bool
  finish : Nat
  requests : List Request
  /-- What is recorded, in order. -/
  records : List Record
deriving DecidableEq

def LiveRun.conduct (handlers : Handlers) (run : LiveRun) : Conduct where
  ending := run.invocation.ending
  abandoned := run.abandoned
  finish := run.invocation.finish
  requests := run.invocation.requests handlers
  records := run.emissions.map Emission.record

section Heard

variable {hooks : Hooks}

/-- An emission that is delivered to its own hooks stays as it is. -/
theorem Recasting.emission_heardBy {emission : Emission} :
    (heardBy hooks).emission emission = emission ↔
      emission.delivery = hooks.deliver emission.record := by
  obtain ⟨record, time, delivery⟩ := emission
  simp only [heardBy, Emission.mk.injEq, true_and, eq_comm]

theorem LiveInvocation.requests_heardBy {handlers : Handlers} {invocation : LiveInvocation}
    (quiet : hooks.Quiet)
    (calm : ∀ emission ∈ invocation.emissions, emission.panic? = none) :
    (invocation.recast (.heardBy hooks)).requests handlers = invocation.requests handlers := by
  unfold requests
  rw [tree_recast, List.flatMap_map]
  apply List.flatMap_congr
  intro inner inside
  simp only [recast, List.flatMap_map]
  apply List.flatMap_congr
  intro stage staged
  simp only [Stage.recast, Stage.mapEvidence, List.filterMap_map]
  apply List.filterMap_congr
  intro dispatch issued
  have heard : dispatch.opened.panic? = none := by
    apply calm_of_emissions calm inner inside
    refine List.mem_cons_of_mem _ (List.mem_append_left _ ?_)
    exact List.mem_flatMap.mpr ⟨stage, staged,
      List.mem_flatMap.mpr ⟨dispatch, issued, List.mem_cons_self⟩⟩
  have heard' : ((Recasting.heardBy hooks).emission dispatch.opened).panic? = none :=
    quiet dispatch.opened.record
  simp only [Function.comp_apply, Dispatch.request?, Dispatch.recast_eq, heard, heard']
  rfl

theorem LiveRun.conduct_heardBy {handlers : Handlers} {run : LiveRun} (quiet : hooks.Quiet)
    (calm : ∀ emission ∈ run.invocation.emissions, emission.panic? = none) :
    (run.recast (.heardBy hooks)).conduct handlers = run.conduct handlers := by
  simp only [conduct, LiveRun.emissions_recast, List.map_map]
  congr 1
  exact LiveInvocation.requests_heardBy quiet calm

/-- Among quiet hooks a hook observes the records of its kinds. -/
theorem observed_eq_filter (quiet : hooks.Quiet) {emissions : List Emission}
    (delivered : ∀ emission ∈ emissions, emission.delivery = hooks.deliver emission.record)
    {position : Nat} {hook : Hook} (registered : hooks.toList[position]? = some hook) :
    observed position emissions =
      (emissions.map Emission.record).filter fun record => hook.hears record.kind := by
  rw [observed, List.filter_map, ← List.filterMap_eq_map, ← List.filterMap_eq_filter,
    List.filterMap_filterMap]
  apply List.filterMap_congr
  intro emission member
  have hears : position ∈ emission.delivery.heard ↔
      hook.hears emission.record.kind = true := by
    rw [delivered emission member, (hooks.heard_deliver quiet emission.record).2 position,
      registered]
    simp only [Option.some.injEq, exists_eq_left']
  unfold Emission.observed?
  by_cases heard : position ∈ emission.delivery.heard
  · simp [heard, hears.mp heard, Option.guard]
  · simp [heard, Bool.eq_false_iff.mpr fun heard' => heard (hears.mpr heard'), Option.guard]

end Heard

section Runs

variable {host : Host} {config : Config} {fresh : RunId} {procedure : Procedure} {args : Value}
  {cutoff : Option Nat}

/-- All records of a run with quiet hooks are delivered to these hooks. -/
theorem Host.delivered_of_leaves (blind : ∀ entry ∈ host.handlers.toList, entry.2.BlindToHooks)
    (quiet : config.hooks.Quiet) {run : LiveRun}
    (leaves : host.Leaves config fresh procedure args cutoff run) :
    ∀ emission ∈ run.invocation.emissions,
      emission.delivery = config.hooks.deliver emission.record := by
  obtain ⟨runtime, fuel, plays⟩ := leaves_iff_play.mp leaves
  -- The run with its own hooks in the place of its hooks is the run itself.
  have same : host.play runtime fuel config fresh procedure args cutoff =
      (host.play runtime fuel config fresh procedure args cutoff).map
        (LiveRun.recast (.heardBy config.hooks)) :=
    play_recast (Recasting.heardBy_fits blind quiet) quiet rfl ..
  rw [plays, Option.map_some, Option.some.injEq] at same
  have emissions := congrArg (fun run => run.invocation.emissions) same
  simp only [LiveRun.recast, LiveInvocation.emissions_recast] at emissions
  intro emission member
  apply Recasting.emission_heardBy.mp
  exact List.map_inj_left.mp (emissions.symm.trans (List.map_id' _).symm) emission member

/-- A run with quiet hooks has the same conduct with others. -/
theorem Host.conduct_heardBy (blind : ∀ entry ∈ host.handlers.toList, entry.2.BlindToHooks)
    (quiet : config.hooks.Quiet) {run : LiveRun}
    (leaves : host.Leaves config fresh procedure args cutoff run) {hooks : Hooks}
    (quiet' : hooks.Quiet) :
    (run.recast (.heardBy hooks)).conduct host.handlers = run.conduct host.handlers := by
  apply LiveRun.conduct_heardBy quiet'
  intro emission member
  rw [Emission.panic?, delivered_of_leaves blind quiet leaves emission member]
  exact quiet emission.record

/-- **Hooks observe and never interfere.** Take handlers that do not look at hooks and two
configurations with the same name and the same fixed identity whose hooks never panic. A run has the
same conduct with both, in virtual time as well as for any runtime that it may be given and however
deep it may nest. Each record is heard by the hooks that hear its kind, in the order of their
registration, and each hook observes what it hears of all that is recorded, in order and once,
whatever the others are and reply. -/
theorem Host.hooks_never_interfere (host : Host) {config config' : Config} {identity : RunId}
    (blind : ∀ entry ∈ host.handlers.toList, entry.2.BlindToHooks)
    (name : config'.name = config.name)
    (fixed : config.run = some identity) (fixed' : config'.run = some identity)
    (quiet : config.hooks.Quiet) (quiet' : config'.hooks.Quiet)
    (fresh fresh' : RunId) (procedure : Procedure) (args : Value) (cutoff : Option Nat) :
    (∀ describe counts,
      ((host.run describe config' fresh' procedure args cutoff counts).map fun result =>
          (result.1.conduct host.handlers, result.2)) =
        ((host.run describe config fresh procedure args cutoff counts).map fun result =>
          (result.1.conduct host.handlers, result.2))) ∧
    (∀ runtime fuel,
      (host.play runtime fuel config' fresh' procedure args cutoff).map
          (LiveRun.conduct host.handlers) =
        (host.play runtime fuel config fresh procedure args cutoff).map
          (LiveRun.conduct host.handlers)) ∧
    ∀ run, host.Leaves config fresh procedure args cutoff run →
      (∀ emission ∈ run.emissions, emission.delivery.heard.Pairwise (· < ·) ∧
        ∀ position, position ∈ emission.delivery.heard ↔ ∃ hook,
          config.hooks.toList[position]? = some hook ∧
            hook.hears emission.record.kind = true) ∧
      ∀ position hook, config.hooks.toList[position]? = some hook →
        observed position run.emissions =
          (run.conduct host.handlers).records.filter fun record => hook.hears record.kind := by
  have root : Site.root config' fresh' = (Site.root config fresh).withHooks config'.hooks := by
    obtain ⟨name, run, hooks⟩ := config
    obtain ⟨name', run', hooks'⟩ := config'
    cases name
    cases fixed
    cases fixed'
    rfl
  have fits := Recasting.heardBy_fits blind quiet'
  refine ⟨?_, ?_, ?_⟩
  · intro describe counts
    rw [run_recast fits quiet root]
    cases ran : host.run describe config fresh procedure args cutoff counts with
    | none => rfl
    | some result =>
        simp only [Option.map_some, conduct_heardBy blind quiet (leaves_of_run ran) quiet']
  · intro runtime fuel
    rw [play_recast fits quiet root]
    cases plays : host.play runtime fuel config fresh procedure args cutoff with
    | none => rfl
    | some run =>
        have leaves := leaves_iff_play.mpr ⟨runtime, fuel, plays⟩
        simp only [Option.map_some, conduct_heardBy blind quiet leaves quiet']
  · intro run leaves
    have delivered : ∀ emission ∈ run.emissions,
        emission.delivery = config.hooks.deliver emission.record := by
      intro emission member
      exact delivered_of_leaves blind quiet leaves emission
        ((chronological_perm _ _).mem_iff.mp member)
    refine ⟨?_, ?_⟩
    · intro emission member
      rw [delivered emission member]
      exact config.hooks.heard_deliver quiet emission.record
    · intro position hook registered
      exact observed_eq_filter quiet delivered registered

/-- A hook that complains about every record and one that hears all of them give a run with a batch
and a nested run the conduct that it has with a single hook. -/
theorem Host.hooks_never_interfere_with_batch :
    let complains : Hook := ⟨[.command, .commandComplete], fun _ => .error (.failed "lost")⟩
    let config : Config := ⟨some "trial", some ⟨"run"⟩, ⟨[complains, .recorder]⟩⟩
    let config' : Config := ⟨some "trial", some ⟨"run"⟩, ⟨[.silent .call]⟩⟩
    let host : Host := ⟨(Handlers.empty.insert "get" fun _ _ => .settle (.ok .null)).insert "run"
      fun _ _ => .sleep 1 (.call (.errand "inner" (.one (.ofType "get"))) .null .settle)⟩
    let procedure : Procedure := .errand "outer" (.all [.ofType "run", .ofType "get"])
    ∃ run run' counts counts',
      host.run Death.message config ⟨"x"⟩ procedure .null none (fun _ => 0) = some (run, counts) ∧
      host.run Death.message config' ⟨"y"⟩ procedure .null none (fun _ => 0) =
        some (run', counts') ∧
      run.invocation.ending = .settled (.ok (.array [.null, .null])) ∧
      (run.invocation.requests host.handlers).map (fun request =>
        (request.trace.depth, request.command.type, request.time)) =
        [(1, "run", 0), (1, "get", 0), (2, "get", 1)] ∧
      run'.conduct host.handlers = run.conduct host.handlers ∧
      (observed 0 run.emissions).map (fun record => record.kind) =
        [.command, .command, .commandComplete, .command, .commandComplete, .commandComplete] ∧
      observed 1 run.emissions = (run'.conduct host.handlers).records := by
  intro complains config config' host procedure
  have quiet : config.hooks.Quiet := by
    apply Hooks.quiet_of_reply
    exact List.forall_mem_cons.mpr ⟨fun _ _ => nofun,
      List.forall_mem_singleton.mpr fun _ _ => nofun⟩
  have quiet' : config'.hooks.Quiet := by
    apply Hooks.quiet_of_reply
    exact List.forall_mem_singleton.mpr fun _ _ => nofun
  have blind : ∀ entry ∈ host.handlers.toList, entry.2.BlindToHooks :=
    List.forall_mem_cons.mpr ⟨fun _ _ _ _ => rfl,
      List.forall_mem_singleton.mpr fun _ _ _ _ => rfl⟩
  have ran : (host.run Death.message config ⟨"x"⟩ procedure .null none fun _ => 0).map
      (fun result => (result.1.invocation.ending,
        (result.1.invocation.requests host.handlers).map (fun request =>
          (request.trace.depth, request.command.type, request.time)),
        (observed 0 result.1.emissions).map (fun record => record.kind))) =
      some (.settled (.ok (.array [.null, .null])),
        [(1, "run", 0), (1, "get", 0), (2, "get", 1)],
        [.command, .command, .commandComplete, .command, .commandComplete,
          .commandComplete]) := by
    decide +kernel
  obtain ⟨⟨run, counts⟩, ran, shown⟩ := Option.map_eq_some_iff.mp ran
  obtain ⟨ending, shown⟩ := Prod.mk.inj shown
  obtain ⟨requests, kinds⟩ := Prod.mk.inj shown
  have name : config'.name = config.name := rfl
  obtain ⟨same, _, hears⟩ := Host.hooks_never_interfere host blind name rfl rfl quiet quiet' ⟨"x"⟩
    ⟨"y"⟩ procedure .null none
  have ran' := same Death.message fun _ => 0
  rw [ran] at ran'
  obtain ⟨⟨run', counts'⟩, ran', conducts⟩ := Option.map_eq_some_iff.mp ran'
  obtain ⟨conduct, _⟩ := Prod.mk.inj conducts
  refine ⟨run, run', counts, counts', ran, ran', ending, requests, conduct, kinds, ?_⟩
  have leaves := Host.leaves_of_run ran
  have observes := (hears run leaves).2 1 .recorder rfl
  rw [observes, conduct]
  apply List.filter_eq_self.mpr
  intro record _
  cases kind : record.kind <;> rfl

end Runs

end Resumable
