import Resumable.Proofs.Live.Fuel
import Resumable.Proofs.Live.Recasting

/-! # Failures that come through nested runs

In a chain of runs each one is made by the handler of a command of the one before, and the last one
has a command that fails. If every run of the chain gives up with the failure that it is given
there, and every handler settles with the failure of the run that it made, the failure comes
through the whole chain as it is.

`Link` names what one run of a chain goes through, and `Link.Chain` says of the handlers, the
procedures and the hooks that they behave like that. From one level to the one above, a command that
fails on its own fails the suspension that it belongs to and with it the run
(`Link.Falls.exists_invoke`). By induction on the chain the run of the first procedure comes to an
end, and the tree of invocations shows the failure at each of its levels
(`Host.failure_comes_through`).
-/

namespace Resumable

open Json (Value)

/-- What one run of a chain goes through. -/
structure Link where
  procedure : Procedure
  args : Value
  /-- The suspension at which it fails. -/
  suspension : Suspension
  step : Nat
  /-- When the commands of the suspension are issued. -/
  issued : Nat
  /-- The command that fails, and its position. -/
  command : Command
  index : Nat

namespace Activity

variable (handlers : Handlers) (runtime : Runtime) (site : Site) (place : Place)

/-- Played from a position at a time, an activity comes to be another one at a later position and
time. Whatever it calls on the way settles. -/
inductive Leads : (first : Activity) → (position now : Nat) → (last : Activity) →
    (position' now' : Nat) → Prop
  | refl {activity : Activity} {position now : Nat} :
      Leads activity position now activity position now
  | sleep {ms : Nat} {next last : Activity} {position now position' now' : Nat}
      (rest : Leads next position (now + ms) last position' now') :
      Leads (.sleep ms next) position now last position' now'
  | draw {counter : Nat} {next : Nat → Activity} {last : Activity}
      {position now position' now' : Nat}
      (rest : Leads (next (runtime.draw (place ++ [position]))) (position + 1) now last position'
        now') :
      Leads (.draw counter next) position now last position' now'
  | call {procedure : Procedure} {args : Value} {next : Outcome → Activity} {last : Activity}
      {position now position' now' fuel : Nat} {invocation : LiveInvocation} {outcome : Outcome}
      (invoked : invoke handlers runtime fuel site (place ++ [position]) procedure args now =
        some invocation)
      (settles : invocation.ending = .settled outcome)
      (rest : Leads (next outcome) (position + 1) invocation.finish last position' now') :
      Leads (.call procedure args next) position now last position' now'

end Activity

/-- The command is dispatched and succeeds. -/
def Dispatch.Succeeds (handlers : Handlers) (runtime : Runtime) (invoke : Site → Invoke)
    (site : Site) (place : Place) (command : Command) (step index now : Nat) : Prop :=
  ∃ dispatch value,
    one handlers runtime invoke site place command step index now = some dispatch ∧
    dispatch.ending = .settled (.ok value)

namespace Link

section Chains

variable (handlers : Handlers) (runtime : Runtime) (failure : Failure)

/-- Where the run of the link takes place if it is made at `parent`. -/
def site (handlers : Handlers) (link : Link) (parent : Site) : Site :=
  parent.enter ⟨link.procedure.name, link.args, handlers.types⟩

/-- A run that begins at `now` comes to the suspension of the link, where all but one command
succeed, and it fails with the failure if this is thrown into it there. -/
structure Falls (link : Link) (site : Site) (place : Place) (now : Nat) : Prop where
  comes : ∃ fuel acts session,
    (handling handlers runtime (invoke handlers runtime fuel) place).History site
      link.procedure.move (.begin link.procedure link.args () now) acts
      (.performing session link.suspension () link.issued) ∧
    session.steps = link.step ∧
    (link.procedure.move session.state (.throw failure)).1 = .failed failure
  among : link.suspension.commands[link.index]? = some link.command
  alone : ∀ i command, link.suspension.commands[i]? = some command → i ≠ link.index →
    ∃ fuel, Dispatch.Succeeds handlers runtime (invoke handlers runtime fuel) site place
      command link.step i link.issued

/-- The records of the link, when the run begins at `now` and fails at `finish`: those of the
run and those of the command that fails. -/
def emissions (link : Link) (site : Site) (now finish : Nat) : List Emission :=
  let number := UInt64.ofNat link.step
  let index := UInt64.ofNat link.index
  let failed (start : Nat) : Completion :=
    .ofOutcome (.ofMillis start) (.ofMillis finish) (.error failure)
  [site.emit now (.call link.procedure.name link.args (.ofMillis now)),
    site.emit link.issued (.command link.command number index (.ofMillis link.issued)),
    site.emit finish
      (.commandComplete link.command number index (.ofMillis link.issued) (failed link.issued)),
    site.emit finish
      (.callComplete link.procedure.name link.args (.ofMillis now) (UInt64.ofNat (link.step + 1))
        (failed now))]

/-- A run made at `parent` that begins at `now` fails at `finish`, because a command of it fails
alone. The handler of the last run's command fails by itself, or there is none. Any other command
fails because its handler makes the next run of the chain and settles with the failure of that
run. No hook panics on the records of the chain. -/
inductive Chain : List Link → (parent : Site) → Place → (now finish : Nat) → Prop
  | last {link : Link} {parent : Site} {place : Place} {now fuel : Nat} {played : Played}
      (falls : link.Falls handlers runtime failure (link.site handlers parent) place now)
      (calm : ∀ emission ∈ link.emissions failure (link.site handlers parent) now played.finish,
        emission.panic? = none)
      (handled : Dispatch.handle handlers runtime.draw (invoke handlers runtime fuel)
        (link.site handlers parent) (place ++ [link.step, link.index]) link.command link.issued =
          some played)
      (fails : Dispatch.taskOutcome runtime (place ++ [link.step, link.index]) played.result =
        .error failure) :
      Chain [link] parent place now played.finish
  | within {link next : Link} {rest : List Link} {parent : Site} {place : Place}
      {now finish position start settled position' : Nat} {after : Outcome → Activity}
      (falls : link.Falls handlers runtime failure (link.site handlers parent) place now)
      (calm : ∀ emission ∈ link.emissions failure (link.site handlers parent) now finish,
        emission.panic? = none)
      (calls : Activity.Leads handlers runtime (link.site handlers parent)
        (place ++ [link.step, link.index])
        (handlers.activity link.command (link.site handlers parent)) 0 link.issued
        (.call next.procedure next.args after) position start)
      (chain : Chain (next :: rest) (link.site handlers parent)
        (place ++ [link.step, link.index] ++ [position]) start settled)
      (returns : Activity.Leads handlers runtime (link.site handlers parent)
        (place ++ [link.step, link.index]) (after (.error failure)) (position + 1) settled
        (.settle (.error failure)) position' finish) :
      Chain (link :: next :: rest) parent place now finish

theorem emissions_of_quiet {link : Link} {site : Site} (quiet : site.config.hooks.Quiet)
    {failure : Failure} {now finish : Nat} :
    ∀ emission ∈ link.emissions failure site now finish, emission.panic? = none := by
  intro emission member
  simp only [emissions, List.mem_cons, List.not_mem_nil, or_false] at member
  rcases member with rfl | rfl | rfl | rfl
  all_goals exact Site.emit_panic? quiet _ _

end Chains

end Link

/-- The completion shows the failure and no result. -/
structure Completion.Fails (completion : Completion) (failure : Failure) : Prop where
  success : completion.success = false
  result : completion.result = none
  failure : completion.failure = some failure

theorem Completion.fails_ofOutcome (start finish : Instant) (failure : Failure) :
    (ofOutcome start finish (.error failure)).Fails failure :=
  ⟨rfl, rfl, rfl⟩

/-- The invocation has failed because of the dispatch, as the link says, and the last records of
both show the failure. -/
structure Link.Shows (link : Link) (failure : Failure) (invocation : LiveInvocation)
    (dispatch : Dispatch) : Prop where
  procedure : invocation.procedure = link.procedure.name
  args : invocation.args = link.args
  ending : invocation.ending = .settled (.error failure)
  closed : ∃ emission start steps completion, invocation.closed = some emission ∧
    emission.record.event = .callComplete link.procedure.name link.args start steps completion ∧
    completion.Fails failure
  issued : ∃ stage, invocation.stages[link.step]? = some stage ∧
    stage.suspension = link.suspension ∧ stage.evidence[link.index]? = some dispatch
  command : dispatch.command = link.command
  answer : dispatch.ending = .settled (.error failure)
  completed : ∃ emission start completion, dispatch.closed = some emission ∧
    emission.record.event = .commandComplete link.command (UInt64.ofNat link.step)
      (UInt64.ofNat link.index) start completion ∧
    completion.Fails failure

/-- The tree of the invocation shows the failure at every level of a chain. -/
inductive LiveInvocation.Surfaces (failure : Failure) : List Link → LiveInvocation → Prop
  | last {link : Link} {invocation : LiveInvocation} {dispatch : Dispatch}
      (shows : link.Shows failure invocation dispatch) : Surfaces failure [link] invocation
  | within {link next : Link} {rest : List Link} {invocation call : LiveInvocation}
      {dispatch : Dispatch} (shows : link.Shows failure invocation dispatch)
      (made : call ∈ dispatch.calls) (surfaces : Surfaces failure (next :: rest) call) :
      Surfaces failure (link :: next :: rest) invocation

section Loop

variable {σ δ ε τ : Type} {performer : Performer σ δ ε} {site : Site}

/-- The loop of a run ends when a suspension of it fails and its computation fails with that. -/
theorem Performer.History.exists_ended_of_thrown {move : τ → Input → Step × τ} {initial : τ}
    {own own' : σ} {now now' : Nat} {acts : List (Act δ ε)} {session : Session τ}
    {suspension : Suspension} {performed : Performance σ δ ε} {failure : Failure}
    (history : performer.History site move (.resuming (.fresh initial) .start own now) acts
      (.performing session suspension own' now'))
    (performs : performer.perform own' site suspension session.steps now' = some performed)
    (fails : performed.ending = .settled (.error failure))
    (thrown : (move session.state (.throw failure)).1 = .failed failure) :
    ∃ acts, performer.History site move (.resuming (.fresh initial) .start own now) acts
        (.ended ⟨performed.finish, session.steps + 1, .settled (.error failure)⟩
          performed.state) ∧
      (acts.filterMap Act.stage?)[session.steps]? = some ⟨suspension, session.steps, now',
        performed.evidence, performed.finish, performed.ending⟩ := by
  obtain ⟨phase, _, numbered⟩ := history.obeys.guarded
  obtain ⟨_, steps, state⟩ := session
  obtain rfl : _ = Phase.suspended := phase
  have fed : Session.feed move ⟨.suspended, steps, state⟩ (.throw failure) =
      .ok (.ofOutcome (.error failure), _) :=
    Session.feed_of_answer (show Session.refusal? _ (.throw failure) = none from rfl)
      (Prod.ext thrown rfl)
  have ended := (history.step (.resumed performs fails)).step (.settled fed)
  refine ⟨_, ended, ?_⟩
  have counted : steps = (acts.filterMap Act.stage?).length := numbered
  rw [List.filterMap_append, stages_concat]
  simp only [counted, List.filterMap_cons, Act.stage?, List.filterMap_nil, List.append_nil,
    List.getElem?_concat_length]

/-- A run whose computation fails with the failure of a suspension ends with this failure, unless a
hook panics on one of its two records. -/
theorem Performer.exists_invoke_of_thrown {procedure : Procedure} {args : Value} {own own' : σ}
    {now now' : Nat} {acts : List (Act δ ε)} {session : Session procedure.State}
    {suspension : Suspension} {performed : Performance σ δ ε} {failure : Failure}
    (history : performer.History site procedure.move (.begin procedure args own now) acts
      (.performing session suspension own' now'))
    (performs : performer.perform own' site suspension session.steps now' = some performed)
    (fails : performed.ending = .settled (.error failure))
    (thrown : (procedure.move session.state (.throw failure)).1 = .failed failure)
    (opened : (site.emit now (.call procedure.name args (.ofMillis now))).panic? = none)
    (closed : (site.emit performed.finish (.callComplete procedure.name args (.ofMillis now)
      (UInt64.ofNat (session.steps + 1)) (.ofOutcome (.ofMillis now) (.ofMillis performed.finish)
        (.error failure)))).panic? = none) :
    ∃ fuel stages,
      performer.invoke site procedure args now fuel own =
        some (performer.finished site procedure.name args now stages
          ⟨performed.finish, session.steps + 1, .settled (.error failure)⟩, performed.state) ∧
      stages[session.steps]? = some ⟨suspension, session.steps, now', performed.evidence,
        performed.finish, performed.ending⟩ := by
  obtain ⟨acts, ended, staged⟩ := history.exists_ended_of_thrown performs fails thrown
  obtain ⟨fuel, stages⟩ := stages_of_history ended
  refine ⟨fuel, _, ?_, staged⟩
  unfold invoke
  simp only [opened, show Procedure.session procedure args = .fresh _ from rfl, stages, finished,
    closing, reported?, closed, Option.bind_eq_bind, Option.bind_some, Option.map_some,
    Option.pure_def]

end Loop

section Levels

variable {handlers : Handlers} {runtime : Runtime} {failure : Failure}

namespace Dispatch

variable {invoke : Site → Invoke} {site : Site} {place : Place} {step now : Nat}

/-- What succeeds with some fuel succeeds with more. -/
theorem Succeeds.of_le {fuel fuel' : Nat} {command : Command} {index : Nat}
    (succeeds : Succeeds handlers runtime (Resumable.invoke handlers runtime fuel) site place
      command step index now) (le : fuel ≤ fuel') :
    Succeeds handlers runtime (Resumable.invoke handlers runtime fuel') site place command step
      index now := by
  obtain ⟨dispatch, value, issued, ending⟩ := succeeds
  exact ⟨dispatch, value, one_of_le le issued, ending⟩

/-- A command whose handler's activity has been played is answered, unless a hook panics on one of
its records. -/
theorem one_of_handled {command : Command} {index : Nat} {played : Played}
    (handled : handle handlers runtime.draw invoke site (place ++ [step, index]) command now =
      some played)
    (opened : (answered runtime place site command step index now played).opened.panic? = none)
    (closed : ∀ emission,
      (answered runtime place site command step index now played).closed = some emission →
        emission.panic? = none) :
    one handlers runtime invoke site place command step index now =
      some (answered runtime place site command step index now played) := by
  have closed := closed _ rfl
  simp only [answered] at opened closed
  simp only [one, opened, handled, closed, Option.bind_eq_bind, Option.bind_some, Option.pure_def,
    answered]

/-- A batch of which one command fails alone fails with it. -/
theorem fails_of_alone {dispatches : List Dispatch}
    (indexed : dispatches.map Dispatch.index = List.range dispatches.length) {index : Nat}
    {dispatch : Dispatch} (found : dispatches[index]? = some dispatch)
    (fails : dispatch.ending = .settled (.error failure))
    (alone : ∀ i other, dispatches[i]? = some other → i ≠ index →
      ∃ value, other.ending = .settled (.ok value)) (now : Nat) :
    batchOutcome dispatches = .error failure ∧ batchFinish now dispatches = dispatch.finish := by
  rcases batchFinish_cases now dispatches with ⟨succeed, _, _⟩ |
    ⟨first, member, failure', fails', reported, finishes, _⟩
  · have kept := succeed dispatch (List.mem_of_getElem? found)
    rw [failure?_eq_some_iff.mpr fails] at kept
    cases kept
  · obtain ⟨i, found'⟩ := List.mem_iff_getElem?.mp member
    rw [failure?_eq_some_iff] at fails'
    by_cases same : i = index
    · subst same
      obtain rfl := Option.some.inj (found.symm.trans found')
      cases fails.symm.trans fails'
      exact ⟨(gathers_batchOutcome indexed).failed failure reported, finishes⟩
    · obtain ⟨value, succeeds⟩ := alone i first found' same
      cases fails'.symm.trans succeeds

/-- A suspension of which one command fails alone fails with it, when that command does. -/
theorem suspension_of_alone {suspended : Suspension} {index : Nat} {command : Command}
    {dispatch : Dispatch} (among : suspended.commands[index]? = some command)
    (issued : one handlers runtime invoke site place command step index now = some dispatch)
    (fails : dispatch.ending = .settled (.error failure))
    (alone : ∀ i command, suspended.commands[i]? = some command → i ≠ index →
      Succeeds handlers runtime invoke site place command step i now) :
    ∃ evidence, suspension handlers runtime invoke site place suspended step 0 now =
        some ⟨(), evidence, dispatch.finish, .settled (.error failure)⟩ ∧
      evidence[index]? = some dispatch := by
  cases suspended with
  | one single =>
      obtain ⟨inside, same⟩ := List.getElem?_eq_some_iff.mp among
      obtain rfl : index = 0 := Nat.lt_one_iff.mp inside
      obtain rfl : single = command := same
      refine ⟨[dispatch], ?_, rfl⟩
      simp only [suspension, issued, fails, Option.bind_eq_bind, Option.bind_some,
        Option.pure_def]
  | all commands =>
      have each : ∀ i command, commands[i]? = some command → ∃ dispatch,
          one handlers runtime invoke site place command step i now = some dispatch := by
        intro i other commanded
        by_cases same : i = index
        · subst same
          obtain rfl := Option.some.inj (among.symm.trans commanded)
          exact ⟨dispatch, issued⟩
        · obtain ⟨dispatch, _, issued, _⟩ := alone i other commanded same
          exact ⟨dispatch, issued⟩
      obtain ⟨dispatches, issues⟩ := exists_all each
      obtain ⟨made, found, again⟩ := exists_getElem?_of_all issues among
      obtain rfl := Option.some.inj (issued.symm.trans again)
      obtain ⟨outcome, finish⟩ := fails_of_alone (map_index_of_all issues) found fails
        (fun i other found' apart => by
          obtain ⟨command, commanded, made⟩ := exists_one_of_getElem? issues found'
          obtain ⟨dispatch, value, made', succeeds⟩ := alone i command commanded apart
          obtain rfl := Option.some.inj (made.symm.trans made')
          exact ⟨value, succeeds⟩) now
      refine ⟨dispatches, ?_, found⟩
      simp only [suspension, issues, outcome, finish, Option.bind_eq_bind, Option.bind_some,
        Option.pure_def]

end Dispatch

namespace Link

variable {link : Link} {parent : Site} {place : Place} {now : Nat}

/-- With enough fuel all commands that succeed beside the failing one do. -/
theorem Falls.exists_fuel_alone {site : Site}
    (falls : link.Falls handlers runtime failure site place now) :
    ∃ fuel, ∀ i command, link.suspension.commands[i]? = some command → i ≠ link.index →
      Dispatch.Succeeds handlers runtime (invoke handlers runtime fuel) site place command
        link.step i link.issued := by
  refine exists_fuel_forall (fun i command fuel fuel' le succeeds apart => ?_) ?_
  · exact (succeeds apart).of_le le
  · intro i command commanded
    by_cases same : i = link.index
    · exact ⟨0, fun apart => absurd same apart⟩
    · obtain ⟨fuel, succeeds⟩ := falls.alone i command commanded same
      exact ⟨fuel, fun _ => succeeds⟩

/-- **A failure goes up one level.** A run of which one command fails alone, and which gives up with
the failure of it, ends with this failure when the command does, and shows it. -/
theorem Falls.exists_invoke
    (falls : link.Falls handlers runtime failure (link.site handlers parent) place now)
    {fuel : Nat} {played : Played}
    (handled : Dispatch.handle handlers runtime.draw (invoke handlers runtime fuel)
      (link.site handlers parent) (place ++ [link.step, link.index]) link.command link.issued =
        some played)
    (fails : Dispatch.taskOutcome runtime (place ++ [link.step, link.index]) played.result =
      .error failure)
    (calm : ∀ emission ∈ link.emissions failure (link.site handlers parent) now played.finish,
      emission.panic? = none) :
    ∃ fuel invocation, invoke handlers runtime fuel parent place link.procedure link.args now =
        some invocation ∧
      invocation.finish = played.finish ∧
      link.Shows failure invocation (Dispatch.answered runtime place (link.site handlers parent)
        link.command link.step link.index link.issued played) := by
  obtain ⟨fuel₁, acts, session, history, numbered, thrown⟩ := falls.comes
  obtain ⟨fuel₂, alone⟩ := falls.exists_fuel_alone
  -- One fuel is enough for the way to the suspension and for all of its commands.
  obtain ⟨enough, le, le₁, le₂⟩ : ∃ enough, fuel ≤ enough ∧ fuel₁ ≤ enough ∧ fuel₂ ≤ enough :=
    ⟨max fuel (max fuel₁ fuel₂), by omega, by omega, by omega⟩
  have handled := Dispatch.handle_of_le le handled
  have history := (handling_of_le le₁).history history
  have alone (i : Nat) (command : Command) (commanded : link.suspension.commands[i]? = some command)
      (apart : i ≠ link.index) := (alone i command commanded apart).of_le le₂
  simp only [emissions, List.forall_mem_cons] at calm
  obtain ⟨opened, begun, failed, closed, _⟩ := calm
  have issued := Dispatch.one_of_handled handled begun fun emission same => by
    obtain rfl := Option.some.inj same
    rw [fails]
    exact failed
  obtain ⟨evidence, performs, found⟩ := Dispatch.suspension_of_alone falls.among issued
    (congrArg Ending.settled fails) alone
  rw [← numbered] at performs closed
  obtain ⟨fuel₃, stages, invoked, staged⟩ :=
    Performer.exists_invoke_of_thrown history performs rfl thrown opened closed
  have invoked := (handling_of_le (Nat.le_max_left enough fuel₃)).invoke rfl
    (Nat.le_succ_of_le (Nat.le_max_right enough fuel₃)) invoked fun _ _ => trivial
  refine ⟨max enough fuel₃ + 1, _, Option.map_eq_some_iff.mpr ⟨_, invoked, rfl⟩, rfl, ?_⟩
  constructor
  case procedure => rfl
  case args => rfl
  case ending => rfl
  case closed => exact ⟨_, _, _, _, rfl, rfl, Completion.fails_ofOutcome ..⟩
  case issued => exact ⟨_, numbered ▸ staged, rfl, found⟩
  case command => rfl
  case answer => exact congrArg Ending.settled fails
  case completed => exact ⟨_, _, _, rfl, rfl, fails ▸ Completion.fails_ofOutcome ..⟩

end Link

/-- What an activity leads to is played after what lies on the way. -/
theorem Activity.Leads.exists_play {site : Site} {place : Place} {first last : Activity}
    {position now position' now' : Nat}
    (leads : Leads handlers runtime site place first position now last position' now') :
    ∃ enough calls draws, ∀ fuel, enough ≤ fuel → ∀ rest,
      last.play runtime.draw (invoke handlers runtime fuel site) place position' now' =
        some rest →
      first.play runtime.draw (invoke handlers runtime fuel site) place position now =
        some { rest with calls := calls ++ rest.calls, draws := draws ++ rest.draws } := by
  induction leads with
  | refl => exact ⟨0, [], [], fun _ _ _ plays => plays⟩
  | sleep _ ih => exact ih
  | @draw counter next last position now position' now' _ ih =>
      obtain ⟨enough, calls, draws, onwards⟩ := ih
      refine ⟨enough, calls, ⟨place ++ [position], counter, now⟩ :: draws, ?_⟩
      intro fuel le rest plays
      simp only [Activity.play, onwards fuel le rest plays, Option.bind_eq_bind,
        Option.bind_some, Option.pure_def, List.cons_append]
  | @call procedure args next last position now position' now' fuel' invocation outcome invoked
      settles _ ih =>
      obtain ⟨enough, calls, draws, onwards⟩ := ih
      refine ⟨max fuel' enough, invocation :: calls, invocation.draws ++ draws, ?_⟩
      intro fuel le rest plays
      have invoked := invoke_of_le (Nat.le_trans (Nat.le_max_left ..) le) invoked
      have onwards := onwards fuel (Nat.le_trans (Nat.le_max_right ..) le) rest plays
      simp only [Activity.play, invoked, settles, onwards, Option.bind_eq_bind,
        Option.bind_some, Option.pure_def, List.cons_append, List.append_assoc]

theorem LiveInvocation.Surfaces.ending {links : List Link} {invocation : LiveInvocation}
    (surfaces : invocation.Surfaces failure links) :
    invocation.ending = .settled (.error failure) := by
  cases surfaces with
  | last shows => exact shows.ending
  | within shows => exact shows.ending

/-- **A failure comes through a chain** of any length. -/
theorem Link.Chain.exists_invoke {links : List Link} {parent : Site} {place : Place}
    {now finish : Nat} (chain : Chain handlers runtime failure links parent place now finish) :
    ∀ first rest, links = first :: rest →
      ∃ fuel invocation,
        invoke handlers runtime fuel parent place first.procedure first.args now =
          some invocation ∧
        invocation.finish = finish ∧ invocation.Surfaces failure links := by
  induction chain with
  | last falls calm handled fails =>
      intro first rest same
      obtain ⟨rfl, -⟩ := List.cons.inj same
      obtain ⟨fuel, invocation, invoked, ends, shows⟩ := falls.exists_invoke handled fails calm
      exact ⟨fuel, invocation, invoked, ends, .last shows⟩
  | @within link next others parent place now finish position start settled position' after falls
      calm calls chain returns ih =>
      intro first rest same
      obtain ⟨rfl, -⟩ := List.cons.inj same
      obtain ⟨fuel₁, call, called, ends, surfaces⟩ := ih next others rfl
      obtain ⟨fuel₂, earlier, draws, leads⟩ := calls.exists_play
      obtain ⟨fuel₃, later, draws', leads'⟩ := returns.exists_play
      obtain ⟨fuel, le₁, le₂, le₃⟩ : ∃ fuel, fuel₁ ≤ fuel ∧ fuel₂ ≤ fuel ∧ fuel₃ ≤ fuel :=
        ⟨max fuel₁ (max fuel₂ fuel₃), by omega, by omega, by omega⟩
      have called := invoke_of_le le₁ called
      have settles := leads' fuel le₃ ⟨[], [], finish, .ok (.error failure)⟩ rfl
      rw [← ends] at settles
      have plays := leads fuel le₂ _ <| by
        simp only [Activity.play, called, surfaces.ending, settles, Option.bind_eq_bind,
          Option.bind_some, Option.pure_def]
        rfl
      rw [← Dispatch.handle_eq_play handlers runtime.draw (invoke handlers runtime fuel)] at plays
      obtain ⟨fuel, invocation, invoked, ends, shows⟩ := falls.exists_invoke plays rfl calm
      refine ⟨fuel, invocation, invoked, ends, .within shows ?_ surfaces⟩
      exact List.mem_append_right _ List.mem_cons_self

end Levels

section Runs

/-- The run of a chain ends with the failure of its last command, given enough fuel, and with any
fuel that is enough it is the same run. -/
theorem Host.play_of_chain {host : Host} {config : Config} {fresh : RunId} {runtime : Runtime}
    {failure : Failure} {first : Link} {rest : List Link} {finish : Nat}
    (chain : Link.Chain host.handlers runtime failure (first :: rest) (.root config fresh) [] 0
      finish) :
    ∃ invocation,
      (∃ enough, ∀ fuel, enough ≤ fuel →
        host.play runtime fuel config fresh first.procedure first.args none =
          some ⟨invocation, false⟩) ∧
      (∀ fuel run,
        host.play runtime fuel config fresh first.procedure first.args none = some run →
          run = ⟨invocation, false⟩) ∧
      invocation.finish = finish ∧ invocation.Surfaces failure (first :: rest) := by
  obtain ⟨enough, invocation, invoked, ends, surfaces⟩ := chain.exists_invoke first rest rfl
  refine ⟨invocation, ⟨enough, fun fuel le => ?_⟩, fun fuel run played => ?_, ends, surfaces⟩
  · have invoked := invoke_of_le le invoked
    simp only [play, invoked, Option.map_some]
    rfl
  · obtain ⟨invocation', invoked', rfl⟩ := Option.map_eq_some_iff.mp played
    have more := invoke_of_le (Nat.le_max_left fuel enough) invoked'
    have more' := invoke_of_le (Nat.le_max_right fuel enough) invoked
    obtain rfl := Option.some.inj (more.symm.trans more')
    rfl

/-- **A failure comes through nested runs as it is.** The run of the first procedure of a chain
ends with the failure of the last one's command, and so does every run and every failing command in
between, as their last records show. It ends like this with any runtime, with all fuel from some
amount on, and no fuel makes it end in another way. So it does when it is given the numbers that its
host's counters give. -/
theorem Host.failure_comes_through (host : Host) (config : Config) (fresh : RunId)
    (failure : Failure) (first : Link) (rest : List Link) :
    (∀ runtime finish,
      Link.Chain host.handlers runtime failure (first :: rest) (.root config fresh) [] 0
        finish →
      ∃ invocation,
        (∃ enough, ∀ fuel, enough ≤ fuel →
          host.play runtime fuel config fresh first.procedure first.args none =
            some ⟨invocation, false⟩) ∧
        (∀ fuel run,
          host.play runtime fuel config fresh first.procedure first.args none = some run →
            run = ⟨invocation, false⟩) ∧
        invocation.ending = .settled (.error failure) ∧
        invocation.Surfaces failure (first :: rest)) ∧
    ∀ describe counts run counts',
      host.run describe config fresh first.procedure first.args none counts = some (run, counts') →
      ∃ numbering, let runtime : Runtime := ⟨numbering, describe⟩
        host.play runtime limit config fresh first.procedure first.args none = some run ∧
        ∀ finish,
          Link.Chain host.handlers runtime failure (first :: rest) (.root config fresh) [] 0
            finish →
          run.abandoned = false ∧ run.invocation.ending = .settled (.error failure) ∧
            run.invocation.Surfaces failure (first :: rest) := by
  constructor
  · intro runtime finish chain
    obtain ⟨invocation, plays, unique, _, surfaces⟩ := play_of_chain chain
    exact ⟨invocation, plays, unique, surfaces.ending, surfaces⟩
  · intro describe counts run counts' ran
    have plays := play_of_run ran
    refine ⟨_, plays, fun finish chain => ?_⟩
    obtain ⟨invocation, _, unique, _, surfaces⟩ := play_of_chain chain
    obtain rfl := unique _ _ plays
    exact ⟨rfl, surfaces.ending, surfaces⟩

/-- A command without a handler fails a nested run, which fails a batch of the run that made it
while the other command of the batch is still to succeed. -/
theorem Host.failure_comes_through_batch :
    let config : Config := ⟨none, some ⟨"run"⟩, ⟨[.recorder]⟩⟩
    let host : Host := ⟨(Handlers.empty.insert "get" fun _ _ =>
      .sleep 2 (.settle (.ok .null))).insert "run" fun _ _ =>
      .sleep 1 (.call (.errand "inner" (.one (.ofType "put"))) .null .settle)⟩
    let failure : Failure := .noHandler "put"
    let batch : Suspension := .all [.ofType "get", .ofType "run"]
    let outer : Link := ⟨.errand "outer" batch, .null, batch, 0, 0, .ofType "run", 1⟩
    let inner : Link := ⟨.errand "inner" (.one (.ofType "put")), .null, .one (.ofType "put"), 0, 1,
      .ofType "put", 0⟩
    ∃ run counts,
      host.run Death.message config ⟨"x"⟩ outer.procedure .null none (fun _ => 0) =
        some (run, counts) ∧
      (∀ runtime, Link.Chain host.handlers runtime failure [outer, inner]
        (.root config ⟨"x"⟩) [] 0 1) ∧
      run.invocation.ending = .settled (.error failure) ∧
      run.invocation.Surfaces failure [outer, inner] := by
  intro config host failure batch outer inner
  have quiet : config.hooks.Quiet := Hooks.quiet_recorder
  have chain (runtime : Runtime) : Link.Chain host.handlers runtime failure [outer, inner]
      (.root config ⟨"x"⟩) [] 0 1 := by
    have outer_falls : outer.Falls host.handlers runtime failure
        (outer.site host.handlers (.root config ⟨"x"⟩)) [] 0 := by
      refine ⟨⟨0, _, _, .step .start (.suspended rfl), rfl, rfl⟩, rfl, ?_⟩
      intro i command commanded apart
      obtain rfl : i = 0 := by
        have inside : i < 2 := (List.getElem?_eq_some_iff.mp commanded).1
        have apart : i ≠ 1 := apart
        omega
      obtain rfl := Option.some.inj commanded
      exact ⟨0, _, .null, rfl, rfl⟩
    have inner_falls (place : Place) : inner.Falls host.handlers runtime failure
        (inner.site host.handlers (outer.site host.handlers (.root config ⟨"x"⟩))) place 1 := by
      refine ⟨⟨0, _, _, .step .start (.suspended rfl), rfl, rfl⟩, rfl, ?_⟩
      intro i command commanded apart
      have inside : i < 1 := (List.getElem?_eq_some_iff.mp commanded).1
      exact absurd (Nat.lt_one_iff.mp inside) apart
    refine .within outer_falls (Link.emissions_of_quiet quiet) (.sleep .refl) ?_ .refl
    have handled (place : Place) : Dispatch.handle host.handlers runtime.draw
        (invoke host.handlers runtime 0)
        (inner.site host.handlers (outer.site host.handlers (.root config ⟨"x"⟩))) place
        (.ofType "put") 1 = some _ := rfl
    exact .last (inner_falls _) (Link.emissions_of_quiet quiet) (handled _) rfl
  have ran :
      (host.run Death.message config ⟨"x"⟩ outer.procedure .null none fun _ => 0).isSome := by
    decide +kernel
  obtain ⟨⟨run, counts⟩, ran⟩ := Option.isSome_iff_exists.mp ran
  obtain ⟨_, _, shows⟩ :=
    (failure_comes_through host config ⟨"x"⟩ failure outer [inner]).2 _ _ _ _ ran
  obtain ⟨_, ending, surfaces⟩ := shows 1 (chain _)
  exact ⟨run, counts, ran, chain, ending, surfaces⟩

end Runs

end Resumable
