import Resumable.Proofs.Live.Lineage

/-! # Recast runs

A run is recast when the sites of its invocations are replaced, and its emissions with them. A
`Recasting` fits two maps of handlers on some sites if the handlers of the second do at the new
sites what those of the first do at the old ones, and if hooks panic at the same emissions. Then
what is invoked with the second handlers at a new site is the recast of what is invoked with the
first ones at the old site (`recast_of_invoke`), down to its times and the numbers that it draws,
and so is a whole run (`Host.run_recast`).
-/

namespace Resumable

open Json (Value)

/-- What a handler of the command does about it at a site; a command without a handler settles with
a lookup failure. -/
def Handlers.activity (handlers : Handlers) (command : Command) (site : Site) : Activity :=
  match handlers.get? command.type with
  | none => .settle (.error (.noHandler command.type))
  | some handler => handler command ⟨handlers.types, site⟩

/-- **A missing handler is one that settles with a lookup failure.** -/
theorem Dispatch.handle_eq_play (handlers : Handlers) (numbering : Numbering)
    (invoke : Site → Invoke) (site : Site) (place : Place) (command : Command) (now : Nat) :
    handle handlers numbering invoke site place command now =
      (handlers.activity command site).play numbering (invoke site) place 0 now := by
  unfold handle Handlers.activity
  cases handlers.get? command.type with
  | none => rfl
  | some handler => rfl

/-- A replacement of sites and emissions. -/
structure Recasting where
  site : Site → Site
  emission : Emission → Emission
  /-- It does not touch times. -/
  time : ∀ old, (emission old).time = old.time

section Recast

variable (recasting : Recasting)

mutual

def Dispatch.recast : Dispatch → Dispatch
  | ⟨command, step, index, place, opened, calls, draws, died, closed, finish, ending⟩ =>
    ⟨command, step, index, place, recasting.emission opened, recastCalls calls, draws, died,
      closed.map recasting.emission, finish, ending⟩

def recastCalls : List (Invocation (List Dispatch) Empty) → List (Invocation (List Dispatch) Empty)
  | [] => []
  | ⟨site, procedure, args, opened, stages, closed, finish, ending⟩ :: rest =>
    ⟨recasting.site site, procedure, args, recasting.emission opened, recastStages stages,
      closed.map recasting.emission, finish, ending⟩ :: recastCalls rest

def recastStages : List (Stage (List Dispatch) Empty) → List (Stage (List Dispatch) Empty)
  | [] => []
  | ⟨suspension, step, start, dispatches, finish, ending⟩ :: rest =>
    ⟨suspension, step, start, recastDispatches dispatches, finish, ending⟩ :: recastStages rest

def recastDispatches : List Dispatch → List Dispatch
  | [] => []
  | dispatch :: rest => dispatch.recast :: recastDispatches rest

end

theorem recastDispatches_eq (dispatches : List Dispatch) :
    recastDispatches recasting dispatches = dispatches.map (Dispatch.recast recasting) := by
  induction dispatches with
  | nil => rfl
  | cons dispatch rest ih => rw [recastDispatches, ih, List.map_cons]

/-- The stage with its evidence changed. -/
def Stage.mapEvidence {δ δ' ε : Type} (change : δ → δ') (stage : Stage δ ε) : Stage δ' ε :=
  ⟨stage.suspension, stage.step, stage.start, change stage.evidence, stage.finish, stage.ending⟩

def Stage.recast (stage : Stage (List Dispatch) Empty) : Stage (List Dispatch) Empty :=
  stage.mapEvidence (List.map (Dispatch.recast recasting))

theorem recastStages_eq (stages : List (Stage (List Dispatch) Empty)) :
    recastStages recasting stages = stages.map (Stage.recast recasting) := by
  induction stages with
  | nil => rfl
  | cons stage rest ih =>
      rw [List.map_cons, ← ih, Stage.recast, Stage.mapEvidence, ← recastDispatches_eq]
      rfl

def LiveInvocation.recast (invocation : LiveInvocation) : LiveInvocation where
  site := recasting.site invocation.site
  procedure := invocation.procedure
  args := invocation.args
  opened := recasting.emission invocation.opened
  stages := invocation.stages.map (Stage.recast recasting)
  closed := invocation.closed.map recasting.emission
  finish := invocation.finish
  ending := invocation.ending

theorem recastCalls_eq (calls : List LiveInvocation) :
    recastCalls recasting calls = calls.map (LiveInvocation.recast recasting) := by
  induction calls with
  | nil => rfl
  | cons call rest ih =>
      rw [List.map_cons, ← ih, LiveInvocation.recast, ← recastStages_eq]
      rfl

theorem Dispatch.recast_eq (dispatch : Dispatch) :
    dispatch.recast recasting =
      { dispatch with
        opened := recasting.emission dispatch.opened
        calls := dispatch.calls.map (LiveInvocation.recast recasting)
        closed := dispatch.closed.map recasting.emission } := by
  obtain ⟨_, _, _, _, _, calls, _, _, _, _, _⟩ := dispatch
  rw [recast, recastCalls_eq]

@[simp] theorem Dispatch.finish_recast (dispatch : Dispatch) :
    (dispatch.recast recasting).finish = dispatch.finish := by
  rw [dispatch.recast_eq recasting]

@[simp] theorem Dispatch.ending_recast (dispatch : Dispatch) :
    (dispatch.recast recasting).ending = dispatch.ending := by
  rw [dispatch.recast_eq recasting]

@[simp] theorem Dispatch.draws_recast (dispatch : Dispatch) :
    (dispatch.recast recasting).draws = dispatch.draws := by
  rw [dispatch.recast_eq recasting]

@[simp] theorem LiveInvocation.draws_recast (invocation : LiveInvocation) :
    (invocation.recast recasting).draws = invocation.draws := by
  simp only [draws, recast, List.flatMap_map, Stage.recast, Stage.mapEvidence,
    Dispatch.draws_recast]

@[simp] theorem Dispatch.report?_recast (dispatch : Dispatch) :
    (dispatch.recast recasting).report? = dispatch.report? := by
  rw [dispatch.recast_eq recasting]
  rfl

/-- A batch does not notice that its dispatches are recast. -/
theorem Dispatch.arrivals_recast (dispatches : List Dispatch) :
    arrivals (dispatches.map (Dispatch.recast recasting)) = arrivals dispatches := by
  unfold arrivals
  rw [List.filterMap_map]
  congr 1
  exact List.filterMap_congr fun dispatch _ => dispatch.report?_recast recasting

theorem Dispatch.batchOutcome_recast (dispatches : List Dispatch) :
    batchOutcome (dispatches.map (Dispatch.recast recasting)) = batchOutcome dispatches := by
  rw [batchOutcome, arrivals_recast, List.length_map, batchOutcome]

theorem Dispatch.batchFinish_recast (now : Nat) (dispatches : List Dispatch) :
    batchFinish now (dispatches.map (Dispatch.recast recasting)) = batchFinish now dispatches := by
  have finishes : (dispatches.map (Dispatch.recast recasting)).map Dispatch.finish =
      dispatches.map Dispatch.finish := by
    rw [List.map_map]
    exact List.map_congr_left fun dispatch _ => dispatch.finish_recast recasting
  rw [batchFinish, arrivals_recast, finishes, batchFinish]

end Recast

section Stages

variable {σ δ δ' ε : Type}

/-- The performance with its evidence changed. -/
def Performance.mapEvidence (change : δ → δ') (performed : Performance σ δ ε) :
    Performance σ δ' ε :=
  ⟨performed.state, change performed.evidence, performed.finish, performed.ending⟩

/-- Performers that differ in their evidence alone give a computation the same stages. -/
theorem Performer.stages_map {performer : Performer σ δ ε} {performer' : Performer σ δ' ε}
    {site site' : Site} {change : δ → δ'}
    (performs : ∀ own suspension step now, performer'.perform own site' suspension step now =
      (performer.perform own site suspension step now).map (Performance.mapEvidence change))
    {τ : Type} (move : τ → Input → Step × τ) (fuel : Nat) (own : σ) (session : Session τ)
    (input : Input) (now : Nat) :
    performer'.stages site' move fuel own session input now =
      (performer.stages site move fuel own session input now).map fun result =>
        (result.1.map (Stage.mapEvidence change), result.2) := by
  induction fuel generalizing own session input now with
  | zero => rfl
  | succ fuel ih =>
      unfold stages
      cases session.feed move input with
      | error refusal => rfl
      | ok answer =>
          obtain ⟨step, after⟩ := answer
          cases step with
          | done value => rfl
          | failed failure => rfl
          | suspend suspension =>
              dsimp only
              rw [performs]
              cases performer.perform own site suspension after.steps now with
              | none => rfl
              | some performed =>
                  obtain ⟨state, evidence, finish, ending⟩ := performed
                  simp only [Option.map_some, Performance.mapEvidence, Option.bind_eq_bind,
                    Option.bind_some]
                  cases ending with
                  | settled outcome =>
                      dsimp only
                      rw [ih]
                      cases performer.stages site move fuel state after (.ofOutcome outcome)
                        finish with
                      | none => rfl
                      | some rest => rfl
                  | halted error => rfl
                  | unwound message => rfl

end Stages

/-- The recasting fits on some sites: with `handlers'` the new site of an invocation is what
`handlers` make its old site, and neither hooks nor handlers notice that it is new. -/
structure Recasting.Fits (recasting : Recasting) (handlers handlers' : Handlers)
    (On : Site → Prop) : Prop where
  stays : ∀ site, On site → ∀ procedure args, On (site.enter ⟨procedure, args, handlers.types⟩)
  enter : ∀ site, On site → ∀ procedure args,
    (recasting.site site).enter ⟨procedure, args, handlers'.types⟩ =
      recasting.site (site.enter ⟨procedure, args, handlers.types⟩)
  emit : ∀ site, On site → ∀ now event,
    (recasting.site site).emit now event = recasting.emission (site.emit now event)
  panic? : ∀ site, On site → ∀ now event,
    ((recasting.site site).emit now event).panic? = (site.emit now event).panic?
  activity : ∀ site, On site → ∀ command,
    handlers'.activity command (recasting.site site) = handlers.activity command site

section Fits

variable {recasting : Recasting} {handlers handlers' : Handlers} {On : Site → Prop}
  {runtime : Runtime}

/-- What was played, with its invocations recast. -/
def Played.recast (recasting : Recasting) (played : Played) : Played :=
  { played with calls := played.calls.map (LiveInvocation.recast recasting) }

/-- An activity whose invocations are recast does the same. -/
theorem Activity.play_recast {numbering : Numbering} {invoke invoke' : Invoke}
    (invokes : ∀ place procedure args now, invoke' place procedure args now =
      (invoke place procedure args now).map (LiveInvocation.recast recasting))
    (activity : Activity) (place : Place) (position now : Nat) :
    activity.play numbering invoke' place position now =
      (activity.play numbering invoke place position now).map (Played.recast recasting) := by
  induction activity generalizing position now with
  | settle outcome => rfl
  | panic message => rfl
  | sleep ms next ih => exact ih position (now + ms)
  | draw counter next ih =>
      simp only [play, ih]
      cases (next (numbering (place ++ [position]))).play numbering invoke place (position + 1)
        now with
      | none => rfl
      | some rest => rfl
  | call procedure args next ih =>
      simp only [play, invokes]
      cases invoke (place ++ [position]) procedure args now with
      | none => rfl
      | some invocation =>
          have finish : (invocation.recast recasting).finish = invocation.finish := rfl
          have ends : (invocation.recast recasting).ending = invocation.ending := rfl
          simp only [Option.map_some, Option.bind_eq_bind, Option.bind_some, finish, ends,
            LiveInvocation.draws_recast]
          cases invocation.ending with
          | settled outcome =>
              simp only [ih]
              cases (next outcome).play numbering invoke place (position + 1)
                invocation.finish with
              | none => rfl
              | some rest => rfl
          | halted error => exact error.elim
          | unwound message => rfl

section Issued

variable {invoke invoke' : Site → Invoke} {site : Site}

theorem Dispatch.one_recast (fits : recasting.Fits handlers handlers' On) (on : On site)
    (invokes : ∀ place procedure args now, invoke' (recasting.site site) place procedure args now =
      (invoke site place procedure args now).map (LiveInvocation.recast recasting))
    (place : Place) (command : Command) (step index now : Nat) :
    one handlers' runtime invoke' (recasting.site site) place command step index now =
      (one handlers runtime invoke site place command step index now).map
        (Dispatch.recast recasting) := by
  unfold one
  simp only [fits.panic? site on, handle_eq_play, fits.activity site on,
    Activity.play_recast invokes]
  split
  · rename_i message panics
    simp only [Option.map_some, recast, fits.emit site on, recastCalls, Option.map_none]
  · cases (handlers.activity command site).play runtime.draw (invoke site)
      (place ++ [step, index]) 0 now with
    | none => rfl
    | some played =>
        simp only [Option.map_some, Option.bind_eq_bind, Option.bind_some, Option.pure_def,
          Played.recast, Played.died, recast, recastCalls_eq, fits.emit site on]

theorem Dispatch.all_recast (fits : recasting.Fits handlers handlers' On) (on : On site)
    (invokes : ∀ place procedure args now, invoke' (recasting.site site) place procedure args now =
      (invoke site place procedure args now).map (LiveInvocation.recast recasting))
    (place : Place) (commands : List Command) (step now : Nat) :
    all handlers' runtime invoke' (recasting.site site) place commands step now =
      (all handlers runtime invoke site place commands step now).map
        (List.map (Dispatch.recast recasting)) := by
  unfold all
  apply mapM_map_option
  intro (command, index)
  exact one_recast fits on invokes place command step index now

/-- What a suspension comes to does not change when its dispatches are recast. -/
theorem Dispatch.suspension_recast (fits : recasting.Fits handlers handlers' On) (on : On site)
    (invokes : ∀ place procedure args now, invoke' (recasting.site site) place procedure args now =
      (invoke site place procedure args now).map (LiveInvocation.recast recasting))
    (place : Place) (suspended : Suspension) (step now : Nat) :
    suspension handlers' runtime invoke' (recasting.site site) place suspended step 0 now =
      (suspension handlers runtime invoke site place suspended step 0 now).map
        (Performance.mapEvidence (List.map (Dispatch.recast recasting))) := by
  cases suspended with
  | one command =>
      simp only [suspension, one_recast fits on invokes]
      cases one handlers runtime invoke site place command step 0 now with
      | none => rfl
      | some dispatch =>
          simp only [Option.map_some, Option.bind_eq_bind, Option.bind_some, Option.pure_def,
            Performance.mapEvidence, finish_recast, ending_recast, List.map_cons, List.map_nil]
  | all commands =>
      simp only [suspension, all_recast fits on invokes]
      cases all handlers runtime invoke site place commands step now with
      | none => rfl
      | some dispatches =>
          simp only [Option.map_some, Option.bind_eq_bind, Option.bind_some, Option.pure_def,
            Performance.mapEvidence, batchFinish_recast, batchOutcome_recast]

end Issued

/-- Performers that give recast evidence make recast invocations, if hooks panic at the same
emissions. -/
theorem Performer.invoke_recast {performer performer' : Performer Unit (List Dispatch) Empty}
    {site : Site}
    (emit : ∀ now event,
      (recasting.site site).emit now event = recasting.emission (site.emit now event))
    (panic? : ∀ now event,
      ((recasting.site site).emit now event).panic? = (site.emit now event).panic?)
    (performs : ∀ own suspension step now,
      performer'.perform own (recasting.site site) suspension step now =
        (performer.perform own site suspension step now).map
          (Performance.mapEvidence (List.map (Dispatch.recast recasting))))
    (procedure : Procedure) (args : Value) (now fuel : Nat) (own : Unit) :
    performer'.invoke (recasting.site site) procedure args now fuel own =
      (performer.invoke site procedure args now fuel own).map fun result =>
        (LiveInvocation.recast recasting result.1, result.2) := by
  unfold invoke
  simp only [panic?, stages_map performs]
  cases (site.emit now (.call procedure.name args (.ofMillis now))).panic? with
  | some message =>
      simp only [emit, Option.map_some, LiveInvocation.recast, List.map_nil, Option.map_none]
  | none =>
      dsimp only
      cases performer.stages site procedure.move fuel own (procedure.session args) .start now with
      | none => rfl
      | some result =>
          obtain ⟨stages, ⟨finish, steps, ending⟩, last⟩ := result
          cases ending with
          | settled outcome =>
              simp only [Option.map_some, Option.bind_eq_bind, Option.bind_some, reported?,
                Option.pure_def, LiveInvocation.recast, ← emit, panic?]
              rfl
          | halted error => exact error.elim
          | unwound message =>
              simp only [Option.map_some, Option.bind_eq_bind, Option.bind_some, reported?,
                Option.pure_def, LiveInvocation.recast, ← emit]
              rfl

/-- **What is invoked at a new site is the recast of what is invoked at the old one.** -/
theorem recast_of_invoke (fits : recasting.Fits handlers handlers' On) {fuel : Nat} {parent : Site}
    (on : On parent) (place : Place) (procedure : Procedure) (args : Value) (now : Nat) :
    invoke handlers' runtime fuel (recasting.site parent) place procedure args now =
      (invoke handlers runtime fuel parent place procedure args now).map
        (LiveInvocation.recast recasting) := by
  induction fuel generalizing parent place procedure args now with
  | zero => rfl
  | succ fuel ih =>
      have within := fits.stays parent on procedure.name args
      simp only [invoke, fits.enter parent on]
      rw [Performer.invoke_recast (fits.emit _ within) (fits.panic? _ within), Option.map_map,
        Option.map_map]
      · rfl
      · intro own suspension step now
        exact Dispatch.suspension_recast fits within (fun _ _ _ _ => ih within ..) ..

end Fits

section Parts

variable (recasting : Recasting)

mutual

theorem Dispatch.emissions_recast : ∀ dispatch : Dispatch,
    (dispatch.recast recasting).emissions = dispatch.emissions.map recasting.emission
  | ⟨_, _, _, _, _, calls, _, _, closed, _, _⟩ => by
      cases closed <;>
        simp [Dispatch.recast, Dispatch.emissions, callEmissions_recast calls]

theorem callEmissions_recast : ∀ calls : List (Invocation (List Dispatch) Empty),
    callEmissions (recastCalls recasting calls) = (callEmissions calls).map recasting.emission
  | [] => rfl
  | ⟨_, _, _, _, stages, closed, _, _⟩ :: rest => by
      cases closed <;>
        simp [recastCalls, callEmissions, stageEmissions_recast stages, callEmissions_recast rest]

theorem stageEmissions_recast : ∀ stages : List (Stage (List Dispatch) Empty),
    stageEmissions (recastStages recasting stages) =
      (stageEmissions stages).map recasting.emission
  | [] => rfl
  | ⟨_, _, _, dispatches, _, _⟩ :: rest => by
      simp [recastStages, stageEmissions, dispatchEmissions_recast dispatches,
        stageEmissions_recast rest]

theorem dispatchEmissions_recast : ∀ dispatches : List Dispatch,
    dispatchEmissions (recastDispatches recasting dispatches) =
      (dispatchEmissions dispatches).map recasting.emission
  | [] => rfl
  | dispatch :: rest => by
      simp [recastDispatches, dispatchEmissions, dispatch.emissions_recast,
        dispatchEmissions_recast rest]

end

mutual

theorem Dispatch.tree_recast : ∀ dispatch : Dispatch,
    (dispatch.recast recasting).tree = dispatch.tree.map (LiveInvocation.recast recasting)
  | ⟨_, _, _, _, _, calls, _, _, _, _, _⟩ => callTree_recast calls

theorem callTree_recast : ∀ calls : List (Invocation (List Dispatch) Empty),
    callTree (recastCalls recasting calls) =
      (callTree calls).map (LiveInvocation.recast recasting)
  | [] => rfl
  | ⟨_, _, _, _, stages, _, _, _⟩ :: rest => by
      have inner := stageTree_recast stages
      rw [recastStages_eq] at inner
      simp only [recastCalls, callTree, recastStages_eq, inner, callTree_recast rest,
        List.map_cons, List.map_append, LiveInvocation.recast]

theorem stageTree_recast : ∀ stages : List (Stage (List Dispatch) Empty),
    stageTree (recastStages recasting stages) =
      (stageTree stages).map (LiveInvocation.recast recasting)
  | [] => rfl
  | ⟨_, _, _, dispatches, _, _⟩ :: rest => by
      simp only [recastStages, stageTree, dispatchTree_recast dispatches, stageTree_recast rest,
        List.map_append]

theorem dispatchTree_recast : ∀ dispatches : List Dispatch,
    dispatchTree (recastDispatches recasting dispatches) =
      (dispatchTree dispatches).map (LiveInvocation.recast recasting)
  | [] => rfl
  | dispatch :: rest => by
      simp only [recastDispatches, dispatchTree, dispatch.tree_recast, dispatchTree_recast rest,
        List.map_append]

end

namespace LiveInvocation

variable (invocation : LiveInvocation)

theorem tree_recast :
    (invocation.recast recasting).tree = invocation.tree.map (LiveInvocation.recast recasting) := by
  have among := callTree_recast recasting [invocation]
  rwa [recastCalls_eq] at among

theorem emissions_recast :
    (invocation.recast recasting).emissions = invocation.emissions.map recasting.emission := by
  have emitted := callEmissions_recast recasting [invocation]
  rwa [recastCalls_eq] at emitted

/-- A run is dropped in the same way whether it is recast or not. -/
theorem abandon_recast (cutoff : Nat) :
    (invocation.recast recasting).abandon cutoff =
      (invocation.abandon cutoff).recast recasting := by
  have drops (stage : Stage (List Dispatch) Empty) :
      (stage.recast recasting).drop cutoff = (stage.drop cutoff).recast recasting := by
    obtain ⟨suspension, step, start, dispatches, finish, ending⟩ := stage
    cases suspension with
    | all commands => rfl
    | one command =>
        by_cases settled : finish ≤ cutoff
        · simp only [Stage.drop, Stage.recast, Stage.mapEvidence, settled, ↓reduceIte]
        · simp only [Stage.drop, Stage.recast, Stage.mapEvidence, settled, ↓reduceIte,
            List.map_map]
          congr 1
          apply List.map_congr_left
          intro dispatch _
          simp only [Function.comp_apply, Dispatch.recast_eq, Option.map_none]
  unfold abandon recast
  simp only [List.filter_map, List.map_map, Option.map_none]
  congr 1
  exact List.map_congr_left fun stage _ => drops stage

end LiveInvocation

namespace LiveRun

def recast (run : LiveRun) : LiveRun :=
  ⟨run.invocation.recast recasting, run.abandoned⟩

theorem ofInvocation_recast (cutoff : Option Nat) (invocation : LiveInvocation) :
    ofInvocation cutoff (invocation.recast recasting) =
      (ofInvocation cutoff invocation).recast recasting := by
  unfold ofInvocation
  cases cutoff with
  | none => rfl
  | some time =>
      have same : (invocation.recast recasting).endedBy time = invocation.endedBy time := rfl
      simp only [same, LiveInvocation.abandon_recast]
      by_cases ended : invocation.endedBy time = true
      · simp only [if_pos ended]
        rfl
      · simp only [if_neg ended]
        rfl

/-- The records of a run are recast one by one. -/
theorem emissions_recast (run : LiveRun) :
    (run.recast recasting).emissions = run.emissions.map recasting.emission := by
  unfold emissions timeline recast
  rw [LiveInvocation.emissions_recast]
  exact (chronological_map recasting.time _).symm

end LiveRun

end Parts

section Runs

theorem Tally.settleFrom_map {α β : Type} {play : Numbering → Option α}
    {play' : Numbering → Option β} {draws : α → List Draw} {draws' : β → List Draw}
    {change : α → β} (plays : ∀ numbering, play' numbering = (play numbering).map change)
    (same : ∀ played, draws' (change played) = draws played) (counts : Counts) (rounds : Nat)
    (table : List (Place × Nat)) :
    settleFrom play' draws' counts rounds table =
      (settleFrom play draws counts rounds table).map change := by
  induction rounds generalizing table with
  | zero => rfl
  | succ rounds ih =>
      unfold settleFrom
      rw [plays]
      cases play (numbering table) with
      | none => rfl
      | some played =>
          simp only [Option.map_some, Option.bind_eq_bind, Option.bind_some, same, ih]
          split <;> rfl

variable {recasting : Recasting} {host host' : Host} {On : Site → Prop} {config config' : Config}
  {fresh fresh' : RunId}

/-- A run from a new site is the recast of the run from the old one. -/
theorem Host.play_recast (fits : recasting.Fits host.handlers host'.handlers On)
    (on : On (.root config fresh))
    (root : Site.root config' fresh' = recasting.site (.root config fresh))
    (runtime : Runtime) (fuel : Nat) (procedure : Procedure) (args : Value)
    (cutoff : Option Nat) :
    host'.play runtime fuel config' fresh' procedure args cutoff =
      (host.play runtime fuel config fresh procedure args cutoff).map
        (LiveRun.recast recasting) := by
  rw [play, play, root, recast_of_invoke fits on, Option.map_map, Option.map_map]
  congr 1
  funext invocation
  exact LiveRun.ofInvocation_recast recasting cutoff invocation

/-- **A whole run from a new site is the recast of the run from the old one**, and it draws the
same numbers. -/
theorem Host.run_recast (fits : recasting.Fits host.handlers host'.handlers On)
    (on : On (.root config fresh))
    (root : Site.root config' fresh' = recasting.site (.root config fresh))
    (describe : Death → String) (procedure : Procedure) (args : Value) (cutoff : Option Nat)
    (counts : Counts) :
    host'.run describe config' fresh' procedure args cutoff counts =
      (host.run describe config fresh procedure args cutoff counts).map fun result =>
        (result.1.recast recasting, result.2) := by
  have draws (run : LiveRun) : (run.recast recasting).draws = run.draws :=
    LiveInvocation.draws_recast recasting run.invocation
  have plays (numbering : Numbering) :
      host'.play ⟨numbering, describe⟩ limit config' fresh' procedure args cutoff =
        (host.play ⟨numbering, describe⟩ limit config fresh procedure args cutoff).map
          (LiveRun.recast recasting) :=
    play_recast fits on root _ limit procedure args cutoff
  have settled := Tally.settleFrom_map plays draws counts limit []
  unfold run Tally.settle
  rw [settled]
  cases Tally.settleFrom _ LiveRun.draws counts limit [] with
  | none => rfl
  | some run =>
      simp only [Option.map_some, Option.bind_eq_bind, Option.bind_some, Option.pure_def, draws]

end Runs

end Resumable
