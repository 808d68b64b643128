import Resumable.Proofs.Live.Settled
import Resumable.Proofs.Loop

/-! # Runs with more fuel and other descriptions

The fuel of a run bounds how deep runs nest and how often each suspends. A run that ends within its
fuel is the same with more of it (`invoke_of_le`), and so is all that it is made of. Nor does a run
depend on what its runtime has for other draws than its own and for other tasks than those that died
in it (`Runtime.Agrees`, `invoke_covers`).

One performer covers another on some evidence if it does what the other one does wherever that one
finds such evidence. The performer of handlers covers the one with less fuel and another runtime, on
all evidence for which the two runtimes have the same (`Dispatch.Common`).
-/

namespace Resumable

open Json (Value)

/-- The first performer finds whatever the second one finds that has evidence of this kind. -/
def Performer.Covers {σ δ ε : Type} (wider narrower : Performer σ δ ε) (on : δ → Prop) : Prop :=
  ∀ own site suspension step now performed,
    narrower.perform own site suspension step now = some performed → on performed.evidence →
      wider.perform own site suspension step now = some performed

namespace Performer

variable {σ δ ε τ : Type} {wider narrower : Performer σ δ ε} {on : δ → Prop} {site : Site}

section Loops

variable {move : τ → Input → Step × τ}

theorem Covers.stages (covers : wider.Covers narrower on) {fuel fuel' : Nat} (le : fuel ≤ fuel')
    {own : σ} {session : Session τ} {input : Input} {now : Nat}
    {result : List (Stage δ ε) × Finale ε × σ}
    (found : narrower.stages site move fuel own session input now = some result)
    (kind : ∀ stage ∈ result.1, on stage.evidence) :
    wider.stages site move fuel' own session input now = some result := by
  induction fuel generalizing fuel' own session input now result with
  | zero => cases found
  | succ fuel ih =>
      obtain ⟨fuel', rfl⟩ : ∃ more, fuel' = more + 1 := ⟨fuel' - 1, by omega⟩
      rw [Performer.stages] at found ⊢
      cases fed : session.feed move input with
      | error refusal =>
          rw [fed] at found
          exact found
      | ok answer =>
          obtain ⟨step, after⟩ := answer
          rw [fed] at found
          cases step with
          | done value => exact found
          | failed failure => exact found
          | suspend suspension =>
              simp only [Option.bind_eq_bind, Option.bind_eq_some_iff] at found ⊢
              obtain ⟨performed, performs, found⟩ := found
              split at found
              · rename_i outcome gives
                obtain ⟨others, further, same⟩ := Option.bind_eq_some_iff.mp found
                obtain rfl := Option.some.inj same
                obtain ⟨here, later⟩ := List.forall_mem_cons.mp kind
                refine ⟨performed, covers _ _ _ _ _ _ performs here, ?_⟩
                rw [gives]
                exact Option.bind_eq_some_iff.mpr
                  ⟨others, ih (Nat.le_of_succ_le_succ le) further later, rfl⟩
              · rename_i stops
                obtain rfl := Option.some.inj found
                refine ⟨performed, covers _ _ _ _ _ _ performs ?_, ?_⟩
                · exact kind _ List.mem_cons_self
                · cases ending : performed.ending with
                  | settled outcome => exact absurd ending (stops outcome)
                  | halted error => rfl
                  | unwound message => rfl

theorem Covers.moves (covers : wider.Covers narrower fun _ => True) {point next : Point τ σ ε}
    {act : Act δ ε} (moves : narrower.Moves site move point act next) :
    wider.Moves site move point act next := by
  cases moves with
  | refused fed => exact .refused fed
  | settled fed => exact .settled fed
  | suspended fed => exact .suspended fed
  | resumed performs gives => exact .resumed (covers _ _ _ _ _ _ performs trivial) gives
  | stopped performs stops => exact .stopped (covers _ _ _ _ _ _ performs trivial) stops

theorem Covers.history (covers : wider.Covers narrower fun _ => True) {first point : Point τ σ ε}
    {acts : List (Act δ ε)} (history : narrower.History site move first acts point) :
    wider.History site move first acts point := by
  induction history with
  | start => exact .start
  | step history moves ih => exact .step ih (covers.moves moves)

end Loops

theorem Covers.invoke (covers : wider.Covers narrower on)
    (same : wider.errorText = narrower.errorText) {fuel fuel' : Nat} (le : fuel ≤ fuel')
    {procedure : Procedure} {args : Value} {now : Nat} {own : σ} {result : Invocation δ ε × σ}
    (found : narrower.invoke site procedure args now fuel own = some result)
    (kind : ∀ stage ∈ result.1.stages, on stage.evidence) :
    wider.invoke site procedure args now fuel' own = some result := by
  unfold Performer.invoke at found ⊢
  dsimp only at found ⊢
  split at found
  · exact found
  · obtain ⟨parts, staged, rest⟩ := Option.bind_eq_some_iff.mp found
    obtain rfl := Option.some.inj rest
    refine Option.bind_eq_some_iff.mpr ⟨parts, covers.stages le staged kind, ?_⟩
    have reports : wider.reported? = narrower.reported? := by
      funext ending
      cases ending with
      | settled outcome => rfl
      | halted error => simp only [reported?, same]
      | unwound message => rfl
    rw [reports]
    rfl

end Performer

/-- Both runtimes have the same for the run: each of its draws gives the same number, and the same
is said of each task that died in it. -/
structure Runtime.Agrees (runtime runtime' : Runtime) (invocation : LiveInvocation) : Prop where
  draws : ∀ draw ∈ invocation.draws, runtime'.draw draw.place = runtime.draw draw.place
  deaths : ∀ death ∈ invocation.deaths, runtime'.describe death = runtime.describe death

theorem Runtime.Agrees.refl (runtime : Runtime) (invocation : LiveInvocation) :
    runtime.Agrees runtime invocation :=
  ⟨fun _ _ => rfl, fun _ _ => rfl⟩

theorem Runtime.Agrees.symm {runtime runtime' : Runtime} {invocation : LiveInvocation}
    (agrees : runtime.Agrees runtime' invocation) : runtime'.Agrees runtime invocation :=
  ⟨fun draw drawn => (agrees.draws draw drawn).symm,
    fun death died => (agrees.deaths death died).symm⟩

/-- Both runtimes have the same for the handler of the command and for all that it ran. -/
structure Dispatch.Common (dispatch : Dispatch) (runtime runtime' : Runtime) : Prop where
  draws : ∀ draw ∈ dispatch.draws, runtime'.draw draw.place = runtime.draw draw.place
  calls : ∀ call ∈ dispatch.calls, ∀ death ∈ LiveInvocation.deaths call,
    runtime'.describe death = runtime.describe death
  death : ∀ death, dispatch.death? = some death →
    runtime'.describe death = runtime.describe death

theorem Dispatch.Common.refl (dispatch : Dispatch) (runtime : Runtime) :
    dispatch.Common runtime runtime :=
  ⟨fun _ _ => rfl, fun _ _ _ _ => rfl, fun _ _ => rfl⟩

/-- The runtimes have the same for each command of a run that they agree on. -/
theorem Runtime.Agrees.common {runtime runtime' : Runtime} {invocation : LiveInvocation}
    (agrees : runtime.Agrees runtime' invocation) :
    ∀ stage ∈ invocation.stages, ∀ dispatch ∈ stage.evidence,
      dispatch.Common runtime runtime' := by
  intro stage staged dispatch issued
  have deaths {death : Death} (died : dispatch.death? = some death ∨
      ∃ call ∈ dispatch.calls, death ∈ LiveInvocation.deaths call) :
      runtime'.describe death = runtime.describe death :=
    agrees.deaths death
      (LiveInvocation.mem_deaths_iff.mpr ⟨stage, staged, dispatch, issued, died⟩)
  refine ⟨fun draw drawn => agrees.draws draw ?_, ?_, fun death died => deaths (.inl died)⟩
  · exact List.mem_flatMap.mpr ⟨stage, staged, List.mem_flatMap.mpr ⟨dispatch, issued, drawn⟩⟩
  · exact fun call called death died => deaths (.inr ⟨call, called, died⟩)

section Covered

variable {handlers : Handlers} {runtime runtime' : Runtime} {site : Site} {place : Place}

/-- The first way to run procedures finds the invocations that the second one finds, where the
runtimes agree on them. -/
def Invoke.Covers (wider narrower : Invoke) (runtime runtime' : Runtime) : Prop :=
  ∀ place procedure args now invocation,
    narrower place procedure args now = some invocation → runtime.Agrees runtime' invocation →
      wider place procedure args now = some invocation

theorem Invoke.Covers.play {wider narrower : Invoke}
    (covers : wider.Covers narrower runtime runtime') {activity : Activity} {position now : Nat}
    {played : Played}
    (plays : activity.play runtime.draw narrower place position now = some played)
    (draws : ∀ draw ∈ played.draws, runtime'.draw draw.place = runtime.draw draw.place)
    (deaths : ∀ call ∈ played.calls, ∀ death ∈ LiveInvocation.deaths call,
      runtime'.describe death = runtime.describe death) :
    activity.play runtime'.draw wider place position now = some played := by
  induction activity generalizing position now played with
  | settle outcome => exact plays
  | panic message => exact plays
  | sleep ms next ih => exact ih plays draws deaths
  | draw counter next ih =>
      obtain ⟨rest, further, rfl⟩ := Activity.exists_play_of_draw plays
      obtain ⟨here, later⟩ := List.forall_mem_cons.mp draws
      dsimp only at here
      unfold Activity.play
      dsimp only
      rw [here]
      exact Option.bind_eq_some_iff.mpr ⟨rest, ih _ further later deaths, rfl⟩
  | call procedure args next ih =>
      obtain ⟨first, invoked, ⟨outcome, rest, settled, further, rfl⟩ | ⟨message, unwound, rfl⟩⟩ :=
        Activity.exists_invocation_of_call plays
      all_goals unfold Activity.play
      · obtain ⟨here, later⟩ := List.forall_mem_append.mp draws
        obtain ⟨died, others⟩ := List.forall_mem_cons.mp deaths
        refine Option.bind_eq_some_iff.mpr ⟨first, covers _ _ _ _ _ invoked ⟨here, died⟩, ?_⟩
        rw [settled]
        exact Option.bind_eq_some_iff.mpr ⟨rest, ih _ further later others, rfl⟩
      · have died := List.forall_mem_singleton.mp deaths
        refine Option.bind_eq_some_iff.mpr ⟨first, covers _ _ _ _ _ invoked ⟨draws, died⟩, ?_⟩
        rw [unwound]
        rfl

variable {wider narrower : Site → Invoke}

namespace Dispatch

variable (covers : ∀ site, (wider site).Covers (narrower site) runtime runtime')
include covers

theorem handle_of_covers {command : Command} {now : Nat} {played : Played}
    (handled : handle handlers runtime.draw narrower site place command now = some played)
    (draws : ∀ draw ∈ played.draws, runtime'.draw draw.place = runtime.draw draw.place)
    (deaths : ∀ call ∈ played.calls, ∀ death ∈ LiveInvocation.deaths call,
      runtime'.describe death = runtime.describe death) :
    handle handlers runtime'.draw wider site place command now = some played := by
  unfold handle at handled ⊢
  split at handled
  · exact handled
  · exact (covers site).play handled draws deaths

theorem one_of_covers {command : Command} {step index now : Nat} {dispatch : Dispatch}
    (issued : one handlers runtime narrower site place command step index now = some dispatch)
    (common : dispatch.Common runtime runtime') :
    one handlers runtime' wider site place command step index now = some dispatch := by
  unfold one at issued ⊢
  dsimp only at issued ⊢
  split at issued
  · exact issued
  · obtain ⟨played, handled, rest⟩ := Option.bind_eq_some_iff.mp issued
    obtain rfl := Option.some.inj rest
    refine Option.bind_eq_some_iff.mpr
      ⟨played, handle_of_covers covers handled common.draws common.calls, ?_⟩
    have outcome : taskOutcome runtime' (place ++ [step, index]) played.result =
        taskOutcome runtime (place ++ [step, index]) played.result := by
      cases result : played.result with
      | ok outcome => rfl
      | error message =>
          have died : played.died = some message := by rw [Played.died, result]
          have same := common.death ⟨place ++ [step, index], message⟩ (by simp [death?, died])
          rw [taskOutcome, taskOutcome, Runtime.panicked, Runtime.panicked, same]
    rw [outcome]
    rfl

theorem all_of_covers {commands : List Command} {step now : Nat} {dispatches : List Dispatch}
    (issued : all handlers runtime narrower site place commands step now = some dispatches)
    (common : ∀ dispatch ∈ dispatches, dispatch.Common runtime runtime') :
    all handlers runtime' wider site place commands step now = some dispatches := by
  have each := mapM_eq_some_iff.mp issued
  refine mapM_eq_some_iff.mpr (List.forall₂_iff_get.mpr ?_)
  obtain ⟨length, each⟩ := List.forall₂_iff_get.mp each
  refine ⟨length, fun i inside inside' => ?_⟩
  exact one_of_covers covers (each i inside inside') (common _ (List.get_mem _ _))

theorem suspension_of_covers {suspension : Suspension} {step index now : Nat}
    {performed : Performance Unit (List Dispatch) Empty}
    (performs : Dispatch.suspension handlers runtime narrower site place suspension step index
      now = some performed)
    (common : ∀ dispatch ∈ performed.evidence, dispatch.Common runtime runtime') :
    Dispatch.suspension handlers runtime' wider site place suspension step index now =
      some performed := by
  cases suspension with
  | one command =>
      obtain ⟨dispatch, issued, same⟩ := Option.bind_eq_some_iff.mp performs
      obtain rfl := Option.some.inj same
      refine Option.bind_eq_some_iff.mpr ⟨dispatch, one_of_covers covers issued ?_, rfl⟩
      exact common dispatch List.mem_cons_self
  | all commands =>
      obtain ⟨dispatches, issued, same⟩ := Option.bind_eq_some_iff.mp performs
      obtain rfl := Option.some.inj same
      exact Option.bind_eq_some_iff.mpr ⟨dispatches, all_of_covers covers issued common, rfl⟩

end Dispatch

theorem handling_covers (covers : ∀ site, (wider site).Covers (narrower site) runtime runtime') :
    (handling handlers runtime' wider place).Covers (handling handlers runtime narrower place)
      fun evidence => ∀ dispatch ∈ evidence, dispatch.Common runtime runtime' :=
  fun _ _ _ _ _ _ => Dispatch.suspension_of_covers covers

end Covered

section Fuel

variable {handlers : Handlers} {runtime runtime' : Runtime} {fuel fuel' : Nat}

/-- **A run is the same with more fuel and another runtime** that agrees on it. -/
theorem invoke_covers (le : fuel ≤ fuel') (parent : Site) :
    (invoke handlers runtime' fuel' parent).Covers (invoke handlers runtime fuel parent) runtime
      runtime' := by
  induction fuel generalizing fuel' parent with
  | zero =>
      intro place procedure args now invocation found
      cases found
  | succ fuel ih =>
      obtain ⟨fuel', rfl⟩ : ∃ more, fuel' = more + 1 := ⟨fuel' - 1, by omega⟩
      intro place procedure args now invocation found agrees
      obtain ⟨result, performed, rfl⟩ := Option.map_eq_some_iff.mp found
      have covers (site : Site) := ih (Nat.le_of_succ_le_succ le) site
      exact Option.map_eq_some_iff.mpr
        ⟨result, (handling_covers covers).invoke rfl le performed agrees.common, rfl⟩

/-- **A run with more fuel than it needs is the same run.** -/
theorem invoke_of_le (le : fuel ≤ fuel') {parent : Site} {place : Place} {procedure : Procedure}
    {args : Value} {now : Nat} {invocation : LiveInvocation}
    (found : invoke handlers runtime fuel parent place procedure args now = some invocation) :
    invoke handlers runtime fuel' parent place procedure args now = some invocation :=
  invoke_covers le parent _ _ _ _ _ found (.refl runtime invocation)

variable {site : Site} {place : Place} {command : Command}

theorem Dispatch.handle_of_le (le : fuel ≤ fuel') {now : Nat} {played : Played}
    (handled : handle handlers runtime.draw (invoke handlers runtime fuel) site place command now =
      some played) :
    handle handlers runtime.draw (invoke handlers runtime fuel') site place command now =
      some played :=
  handle_of_covers (invoke_covers le) handled (fun _ _ => rfl) fun _ _ _ _ => rfl

theorem Dispatch.one_of_le (le : fuel ≤ fuel') {step index now : Nat} {dispatch : Dispatch}
    (issued : one handlers runtime (invoke handlers runtime fuel) site place command step index
      now = some dispatch) :
    one handlers runtime (invoke handlers runtime fuel') site place command step index now =
      some dispatch :=
  one_of_covers (invoke_covers le) issued (.refl dispatch runtime)

theorem handling_of_le (le : fuel ≤ fuel') :
    (handling handlers runtime (invoke handlers runtime fuel') place).Covers
      (handling handlers runtime (invoke handlers runtime fuel) place) fun _ => True := by
  intro own site suspension step now performed performs _
  exact handling_covers (invoke_covers le) own site suspension step now performed performs
    fun dispatch _ => .refl dispatch runtime

end Fuel

/-- If each item of a list does with some fuel and with more of it, then all do with enough. -/
theorem exists_fuel_forall {α : Type} {holds : Nat → α → Nat → Prop}
    (lasts : ∀ i item fuel fuel', fuel ≤ fuel' → holds i item fuel → holds i item fuel')
    {items : List α} (each : ∀ i item, items[i]? = some item → ∃ fuel, holds i item fuel) :
    ∃ fuel, ∀ i item, items[i]? = some item → holds i item fuel := by
  induction items generalizing holds with
  | nil => exact ⟨0, fun i item found => by cases found⟩
  | cons first rest ih =>
      obtain ⟨fuel, begins⟩ := each 0 first rfl
      obtain ⟨fuel', others⟩ := ih (fun i => lasts (i + 1)) fun i item found =>
        each (i + 1) item found
      refine ⟨max fuel fuel', fun i item found => ?_⟩
      cases i with
      | zero =>
          obtain rfl := Option.some.inj found
          exact lasts 0 first _ _ (Nat.le_max_left ..) begins
      | succ i => exact lasts (i + 1) item _ _ (Nat.le_max_right ..) (others i item found)

/-- If each command of a batch is dispatched with some fuel, then all are with enough of it. -/
theorem Dispatch.exists_fuel_all {handlers : Handlers} {runtime : Runtime} {site : Site}
    {place : Place} {commands : List Command} {step now : Nat}
    (each : ∀ (i : Nat) (command : Command), commands[i]? = some command → ∃ fuel dispatch,
      one handlers runtime (invoke handlers runtime fuel) site place command step i now =
        some dispatch) :
    ∃ fuel dispatches, all handlers runtime (invoke handlers runtime fuel) site place commands
      step now = some dispatches := by
  obtain ⟨fuel, enough⟩ := exists_fuel_forall (fun _ _ _ _ le found => by
    obtain ⟨dispatch, issued⟩ := found
    exact ⟨dispatch, one_of_le le issued⟩) each
  exact ⟨fuel, exists_all enough⟩

end Resumable
