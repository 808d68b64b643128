import Resumable.Proofs.Live.Completion
import Resumable.Proofs.Live.Spans

/-! # Runs keep their pace

Nothing in a run looks at the clock but the sleeps of handlers, which let time pass. So what is
found at one time is found at any other, takes as long and ends alike: the ways to find it are in
step (`InStep`). They stay in step from an activity to the command that is answered with it, to a
batch, to the steps of a computation and to its invocation, which other activities call
(`invoke_inStep`). This holds of two places of one run, and of two runs, as long as they draw the
same numbers; handlers that do nothing with the numbers they draw need not even do that
(`Handlers.Heedless`).
-/

namespace Resumable

open Json (Value)

/-- What the first way finds at a time, the second way finds at any time: it takes as long, and
ends alike. -/
def InStep {α β : Type} (finish : α → Nat) (ends : α → β) (first second : Nat → Option α) : Prop :=
  ∀ now now' found, first now = some found → ∃ found' lapse, second now' = some found' ∧
    ends found' = ends found ∧ finish found = now + lapse ∧ finish found' = now' + lapse

namespace InStep

variable {α β γ δ : Type} {finish : α → Nat} {ends : α → β} {first second : Nat → Option α}

theorem immediate {made made' : Nat → α} (finishes : ∀ now, finish (made now) = now)
    (finishes' : ∀ now, finish (made' now) = now)
    (same : ∀ now now', ends (made' now') = ends (made now)) :
    InStep finish ends (fun now => some (made now)) (fun now => some (made' now)) := by
  intro now now' found same'
  cases same'
  exact ⟨made' now', 0, rfl, same now now', finishes now, finishes' now'⟩

theorem later (inStep : InStep finish ends first second) (ms : Nat) :
    InStep finish ends (fun now => first (now + ms)) (fun now => second (now + ms)) := by
  intro now now' found finds
  obtain ⟨found', lapse, finds', same, takes, takes'⟩ := inStep _ (now' + ms) found finds
  exact ⟨found', ms + lapse, finds', same, by omega, by omega⟩

/-- What is found may be put into other words. -/
theorem map {finish' : γ → Nat} {ends' : γ → δ} {change change' : Nat → α → γ}
    (inStep : InStep finish ends first second)
    (finishes : ∀ now found, finish' (change now found) = finish found)
    (finishes' : ∀ now found, finish' (change' now found) = finish found)
    (same : ∀ now now' found found', ends found' = ends found →
      ends' (change' now' found') = ends' (change now found)) :
    InStep finish' ends' (fun now => (first now).map (change now))
      (fun now => (second now).map (change' now)) := by
  intro now now' changed changes
  obtain ⟨found, finds, rfl⟩ := Option.map_eq_some_iff.mp changes
  obtain ⟨found', lapse, finds', ends, takes, takes'⟩ := inStep now now' found finds
  refine ⟨change' now' found', lapse, Option.map_eq_some_iff.mpr ⟨found', finds', rfl⟩,
    same _ _ _ _ ends, ?_, ?_⟩
  · rw [finishes, takes]
  · rw [finishes', takes']

/-- What follows begins when the first thing found is over, and depends on how that ended. -/
theorem bind {finish' : γ → Nat} {ends' : γ → δ} {next next' : Nat → α → Nat → Option γ}
    (inStep : InStep finish ends first second)
    (follows : ∀ now now' found found', ends found' = ends found →
      InStep finish' ends' (next now found) (next' now' found')) :
    InStep finish' ends' (fun now => (first now).bind fun found => next now found (finish found))
      (fun now => (second now).bind fun found => next' now found (finish found)) := by
  intro now now' last finds
  obtain ⟨found, begins, goes⟩ := Option.bind_eq_some_iff.mp finds
  obtain ⟨found', lapse, begins', same, takes, takes'⟩ := inStep now now' found begins
  obtain ⟨last', further, goes', same', later, later'⟩ :=
    follows now now' found found' same _ (finish found') last goes
  refine ⟨last', lapse + further, Option.bind_eq_some_iff.mpr ⟨found', begins', goes'⟩, same',
    ?_, ?_⟩
  · omega
  · omega

end InStep

namespace Performer

variable {σ δ ε τ : Type} {performer performer' : Performer σ δ ε} {site : Site}

/-- What follows a suspension that was performed: the computation goes on with its outcome. -/
def resumption (performer : Performer σ δ ε) (site : Site) (move : τ → Input → Step × τ)
    (fuel : Nat) (session : Session τ) (suspension : Suspension) (start : Nat)
    (performed : Performance σ δ ε) (now : Nat) : Option (List (Stage δ ε) × Finale ε × σ) :=
  let stage : Stage δ ε := ⟨suspension, session.steps, start, performed.evidence, performed.finish,
    performed.ending⟩
  match performed.ending with
  | .settled outcome =>
    (performer.stages site move fuel performed.state session (.ofOutcome outcome) now).map
      fun result => (stage :: result.1, result.2)
  | ending => some ([stage], ⟨now, session.steps, ending⟩, performed.state)

section Stages

variable (site) {move : τ → Input → Step × τ} {session : Session τ} {input : Input}

theorem stages_of_suspend {after : Session τ} {suspension : Suspension}
    (fed : session.feed move input = .ok (.suspend suspension, after)) (fuel : Nat) (own : σ) :
    performer.stages site move (fuel + 1) own session input = fun now =>
      (performer.perform own site suspension after.steps now).bind fun performed =>
        performer.resumption site move fuel after suspension now performed performed.finish := by
  funext now
  rw [stages, fed]
  refine Option.bind_congr ?_
  intro performed _
  unfold resumption
  cases performed.ending with
  | settled outcome => exact Option.map_eq_bind.symm
  | halted error => rfl
  | unwound message => rfl

/-- A computation that does not suspend settles at once, whoever performs. -/
theorem stages_of_not_suspend
    (settles : ∀ suspension after, session.feed move input ≠ .ok (.suspend suspension, after)) :
    ∃ steps outcome, ∀ (performer : Performer σ δ ε) fuel own,
      performer.stages site move (fuel + 1) own session input = fun now =>
        some ([], ⟨now, steps, .settled outcome⟩, own) := by
  cases fed : session.feed move input with
  | error refusal =>
      refine ⟨session.steps, .error ⟨.computation, refusal.message⟩, ?_⟩
      intro performer fuel own
      funext now
      rw [stages, fed]
  | ok answer =>
      obtain ⟨step, after⟩ := answer
      cases step with
      | done value =>
          refine ⟨after.steps, .ok value, ?_⟩
          intro performer fuel own
          funext now
          rw [stages, fed]
      | failed failure =>
          refine ⟨after.steps, .error failure, ?_⟩
          intro performer fuel own
          funext now
          rw [stages, fed]
      | suspend suspension => exact absurd fed (settles suspension after)

/-- The stages of a computation are in step under performers that are. -/
theorem stages_inStep
    (performs : ∀ own suspension step,
      InStep Performance.finish (fun performed => (performed.state, performed.ending))
        (performer.perform own site suspension step)
        (performer'.perform own site suspension step))
    (fuel : Nat) (own : σ) (session : Session τ) (input : Input) :
    InStep (fun result => result.2.1.finish) (fun result => (result.2.1.ending, result.2.2))
      (performer.stages site move fuel own session input)
      (performer'.stages site move fuel own session input) := by
  induction fuel generalizing own session input with
  | zero =>
      intro now now' found finds
      cases finds
  | succ fuel ih =>
      by_cases suspends : ∃ suspension after,
        session.feed move input = .ok (.suspend suspension, after)
      · obtain ⟨suspension, after, fed⟩ := suspends
        rw [stages_of_suspend site fed, stages_of_suspend site fed]
        refine (performs own suspension after.steps).bind ?_
        intro now now' performed performed' same
        obtain ⟨state, ending⟩ := Prod.mk.inj same
        unfold resumption
        rw [state, ending]
        cases performed.ending with
        | settled outcome =>
            refine (ih performed.state after (.ofOutcome outcome)).map ?_ ?_ ?_
            · exact fun _ _ => rfl
            · exact fun _ _ => rfl
            · exact fun _ _ _ _ => id
        | halted error => exact .immediate (fun _ => rfl) (fun _ => rfl) (fun _ _ => rfl)
        | unwound message => exact .immediate (fun _ => rfl) (fun _ => rfl) (fun _ _ => rfl)
      · have settles : ∀ suspension after,
            session.feed move input ≠ .ok (.suspend suspension, after) :=
          fun suspension after fed => suspends ⟨suspension, after, fed⟩
        obtain ⟨steps, outcome, settled⟩ := stages_of_not_suspend site settles
        rw [settled performer, settled performer']
        exact .immediate (fun _ => rfl) (fun _ => rfl) (fun _ _ => rfl)

end Stages

end Performer

/-- Which numbers are drawn makes no difference to the activity. -/
def Activity.Heedless : Activity → Prop
  | .settle _ => True
  | .panic _ => True
  | .sleep _ next => next.Heedless
  | .draw _ next => ∀ number, next number = next 0 ∧ (next number).Heedless
  | .call _ _ next => ∀ outcome, (next outcome).Heedless

/-- Which numbers are drawn makes no difference to what the handlers do. -/
def Handlers.Heedless (handlers : Handlers) : Prop :=
  ∀ entry ∈ handlers.toList, ∀ command view, (entry.2 command view).Heedless

/-- The same numbers are drawn below both places. -/
def DrawsAlike (numbering numbering' : Numbering) (place place' : Place) : Prop :=
  ∀ rest, numbering (place ++ rest) = numbering' (place' ++ rest)

/-- What is said of the tasks that die at a place and below it, whose own places are counted from
there. -/
def Runtime.below (runtime : Runtime) (place : Place) (death : Death) : String :=
  runtime.describe ⟨place ++ death.place, death.message⟩

/-- Below both places the handlers do the same: they draw the same numbers, or do nothing with them,
and the same is said of tasks that die. -/
structure Handlers.Indifferent (handlers : Handlers) (runtime runtime' : Runtime)
    (place place' : Place) : Prop where
  draws : handlers.Heedless ∨ DrawsAlike runtime.draw runtime'.draw place place'
  deaths : runtime'.below place' = runtime.below place

namespace Activity

variable {numbering : Numbering} {invoke : Invoke} {place : Place} {position : Nat}

theorem play_draw (counter : Nat) (next : Nat → Activity) :
    (draw counter next).play numbering invoke place position = fun now =>
      ((next (numbering (place ++ [position]))).play numbering invoke place (position + 1) now).map
        fun rest => { rest with draws := ⟨place ++ [position], counter, now⟩ :: rest.draws } := by
  funext now
  exact Option.map_eq_bind.symm

/-- What follows a call that was made: the activity goes on with its outcome. -/
def resumption (numbering : Numbering) (invoke : Invoke) (place : Place) (position : Nat)
    (next : Outcome → Activity) (called : LiveInvocation) (now : Nat) : Option Played :=
  match called.ending with
  | .settled outcome =>
    ((next outcome).play numbering invoke place position now).map fun rest =>
      { rest with calls := called :: rest.calls, draws := called.draws ++ rest.draws }
  | .unwound message => some ⟨[called], called.draws, now, .error message⟩

theorem play_call (procedure : Procedure) (args : Value) (next : Outcome → Activity) :
    (call procedure args next).play numbering invoke place position = fun now =>
      (invoke (place ++ [position]) procedure args now).bind fun called =>
        resumption numbering invoke place (position + 1) next called called.finish := by
  funext now
  rw [play]
  refine Option.bind_congr ?_
  intro called _
  unfold resumption
  cases called.ending with
  | settled outcome => exact Option.map_eq_bind.symm
  | halted error => exact error.elim
  | unwound message => rfl

end Activity

/-- Below both places procedures are run in step. -/
def Invoke.InStepBelow (place place' : Place) (invoke invoke' : Invoke) : Prop :=
  ∀ rest procedure args, InStep Invocation.finish Invocation.ending
    (invoke (place ++ rest) procedure args) (invoke' (place' ++ rest) procedure args)

section Live

variable {handlers : Handlers} {numbering numbering' : Numbering} {runtime runtime' : Runtime}
  {place place' : Place}

theorem Invoke.InStepBelow.below {invoke invoke' : Invoke}
    (invokes : InStepBelow place place' invoke invoke') (rest : Place) :
    InStepBelow (place ++ rest) (place' ++ rest) invoke invoke' := by
  intro further
  rw [List.append_assoc, List.append_assoc]
  exact invokes (rest ++ further)

theorem DrawsAlike.below (alike : DrawsAlike numbering numbering' place place') (rest : Place) :
    DrawsAlike numbering numbering' (place ++ rest) (place' ++ rest) := by
  intro further
  rw [List.append_assoc, List.append_assoc]
  exact alike (rest ++ further)

theorem Runtime.below_append (runtime : Runtime) (place rest : Place) (death : Death) :
    runtime.below (place ++ rest) death =
      runtime.below place ⟨rest ++ death.place, death.message⟩ := by
  simp only [below, List.append_assoc]

theorem Handlers.indifferent_refl : handlers.Indifferent runtime runtime place place :=
  ⟨.inr fun _ => rfl, rfl⟩

theorem Handlers.Indifferent.below
    (indifferent : handlers.Indifferent runtime runtime' place place') (rest : Place) :
    handlers.Indifferent runtime runtime' (place ++ rest) (place' ++ rest) := by
  refine ⟨indifferent.draws.imp_right fun alike => alike.below rest, funext fun death => ?_⟩
  rw [Runtime.below_append, Runtime.below_append, indifferent.deaths]

theorem Activity.play_inStep {invoke invoke' : Invoke}
    (invokes : Invoke.InStepBelow place place' invoke invoke') {activity : Activity}
    (indifferent : activity.Heedless ∨ DrawsAlike numbering numbering' place place')
    (position : Nat) :
    InStep Played.finish Played.result (activity.play numbering invoke place position)
      (activity.play numbering' invoke' place' position) := by
  induction activity generalizing position with
  | settle outcome => exact .immediate (fun _ => rfl) (fun _ => rfl) (fun _ _ => rfl)
  | panic message => exact .immediate (fun _ => rfl) (fun _ => rfl) (fun _ _ => rfl)
  | sleep ms next ih => exact (ih indifferent position).later ms
  | draw counter next ih =>
      have goes : next (numbering' (place' ++ [position])) = next (numbering (place ++ [position]))
          ∧ ((next (numbering (place ++ [position]))).Heedless ∨
            DrawsAlike numbering numbering' place place') := by
        rcases indifferent with heedless | alike
        · obtain ⟨first, further⟩ := heedless (numbering (place ++ [position]))
          exact ⟨(heedless _).1.trans first.symm, .inl further⟩
        · exact ⟨congrArg next (alike [position]).symm, .inr alike⟩
      rw [play_draw, play_draw, goes.1]
      refine (ih _ goes.2 (position + 1)).map ?_ ?_ ?_
      · exact fun _ _ => rfl
      · exact fun _ _ => rfl
      · exact fun _ _ _ _ => id
  | call procedure args next ih =>
      rw [play_call, play_call]
      refine (invokes [position] procedure args).bind ?_
      intro _ _ called called' same
      unfold resumption
      rw [same]
      cases called.ending with
      | settled outcome =>
          have goes : (next outcome).Heedless ∨ DrawsAlike numbering numbering' place place' :=
            indifferent.imp_left fun heedless => heedless outcome
          refine (ih outcome goes (position + 1)).map ?_ ?_ ?_
          · exact fun _ _ => rfl
          · exact fun _ _ => rfl
          · exact fun _ _ _ _ => id
      | halted error => exact error.elim
      | unwound message => exact .immediate (fun _ => rfl) (fun _ => rfl) (fun _ _ => rfl)

section Performing

variable {invoke invoke' : Site → Invoke} {site : Site}

/-- What handlers do is in step where the procedures are that they run. -/
theorem Dispatch.handle_inStep
    (invokes : Invoke.InStepBelow place place' (invoke site) (invoke' site))
    (indifferent : handlers.Heedless ∨ DrawsAlike numbering numbering' place place')
    (command : Command) :
    InStep Played.finish Played.result (handle handlers numbering invoke site place command)
      (handle handlers numbering' invoke' site place' command) := by
  unfold handle
  cases found : handlers.get? command.type with
  | none => exact .immediate (fun _ => rfl) (fun _ => rfl) (fun _ _ => rfl)
  | some handler =>
      refine Activity.play_inStep invokes (indifferent.imp_left fun heedless => ?_) 0
      exact heedless _ (Handlers.mem_of_get? found) _ _

variable (quiet : site.config.hooks.Quiet)
include quiet

/-- Quiet hooks leave a command to its handler. -/
theorem Dispatch.one_of_quiet (command : Command) (step index : Nat) :
    one handlers runtime invoke site place command step index = fun now =>
      (handle handlers runtime.draw invoke site (place ++ [step, index]) command now).map
        (answered runtime place site command step index now) := by
  funext now
  unfold one
  simp only [Site.emit_panic? quiet]
  exact Option.map_eq_bind.symm

theorem Dispatch.one_inStep {step step' index index' : Nat}
    (invokes : Invoke.InStepBelow (place ++ [step, index]) (place' ++ [step', index'])
      (invoke site) (invoke' site))
    (indifferent : handlers.Indifferent runtime runtime' (place ++ [step, index])
      (place' ++ [step', index']))
    (command : Command) :
    InStep Dispatch.finish Dispatch.ending
      (one handlers runtime invoke site place command step index)
      (one handlers runtime' invoke' site place' command step' index') := by
  have outcome (result : Except String Outcome) :
      taskOutcome runtime' (place' ++ [step', index']) result =
        taskOutcome runtime (place ++ [step, index]) result := by
    cases result with
    | ok outcome => rfl
    | error message =>
        have same := congrFun indifferent.deaths ⟨[], message⟩
        simp only [Runtime.below, List.append_nil] at same
        simp only [taskOutcome, Runtime.panicked, same]
  rw [one_of_quiet quiet, one_of_quiet quiet]
  refine (handle_inStep invokes indifferent.draws command).map ?_ ?_ ?_
  · exact fun _ _ => rfl
  · exact fun _ _ => rfl
  · intro _ _ played played' same
    simp only [answered, outcome, same]

/-- A command takes as long whenever it is issued. -/
theorem Dispatch.exists_span_of_one {step step' index index' : Nat}
    (invokes : Invoke.InStepBelow (place ++ [step, index]) (place' ++ [step', index'])
      (invoke site) (invoke' site))
    (indifferent : handlers.Indifferent runtime runtime' (place ++ [step, index])
      (place' ++ [step', index']))
    {command : Command} {now : Nat} {dispatch : Dispatch}
    (issued : one handlers runtime invoke site place command step index now = some dispatch)
    (now' : Nat) :
    ∃ dispatch' span,
      one handlers runtime' invoke' site place' command step' index' now' = some dispatch' ∧
      dispatch.Takes now span ∧ dispatch'.Takes now' span := by
  obtain ⟨dispatch', lapse, issued', same, takes, takes'⟩ :=
    one_inStep quiet invokes indifferent command now now' dispatch issued
  rw [one_of_quiet quiet] at issued
  obtain ⟨played, _, rfl⟩ := Option.map_eq_some_iff.mp issued
  exact ⟨dispatch', ⟨lapse, _⟩, issued', ⟨takes, rfl⟩, ⟨takes', same⟩⟩

/-- The commands of a batch take as long whenever the batch is issued. -/
theorem Dispatch.exists_spans_of_all {step : Nat}
    (invokes : Invoke.InStepBelow place place' (invoke site) (invoke' site))
    (indifferent : handlers.Indifferent runtime runtime' place place')
    {commands : List Command} {now : Nat} {dispatches : List Dispatch}
    (issued : all handlers runtime invoke site place commands step now = some dispatches)
    (now' : Nat) :
    ∃ dispatches' spans,
      all handlers runtime' invoke' site place' commands step now' = some dispatches' ∧
      List.Forall₂ (Takes now) dispatches spans ∧
      List.Forall₂ (Takes now') dispatches' spans := by
  have each := mapM_eq_some_iff.mp issued
  simp only [all, mapM_eq_some_iff]
  clear issued
  generalize commands.zipIdx = entries at each ⊢
  induction each with
  | nil => exact ⟨[], [], .nil, .nil, .nil⟩
  | @cons entry dispatch _ _ issued _ ih =>
      obtain ⟨dispatch', span, issued', takes, takes'⟩ :=
        exists_span_of_one quiet (invokes.below [step, entry.2])
          (indifferent.below [step, entry.2]) issued now'
      obtain ⟨dispatches', spans, rest, others, others'⟩ := ih
      exact ⟨dispatch' :: dispatches', span :: spans, .cons issued' rest, .cons takes others,
        .cons takes' others'⟩

/-- Suspensions are performed in step where the procedures are that handlers run. -/
theorem Dispatch.suspension_inStep {step index : Nat}
    (invokes : Invoke.InStepBelow place place' (invoke site) (invoke' site))
    (indifferent : handlers.Indifferent runtime runtime' place place')
    (suspended : Suspension) :
    InStep Performance.finish (fun performed => (performed.state, performed.ending))
      (suspension handlers runtime invoke site place suspended step index)
      (suspension handlers runtime' invoke' site place' suspended step index) := by
  intro now now' performed performs
  cases suspended with
  | one command =>
      obtain ⟨dispatch, issued, same⟩ := Option.bind_eq_some_iff.mp performs
      obtain rfl := Option.some.inj same
      obtain ⟨dispatch', span, issued', takes, takes'⟩ :=
        exists_span_of_one quiet (invokes.below [step, index])
          (indifferent.below [step, index]) issued now'
      refine ⟨_, span.duration, Option.bind_eq_some_iff.mpr ⟨dispatch', issued', rfl⟩, ?_,
        takes.finish, takes'.finish⟩
      exact congrArg (Prod.mk ()) (takes'.ending.trans takes.ending.symm)
  | all commands =>
      obtain ⟨dispatches, issued, same⟩ := Option.bind_eq_some_iff.mp performs
      obtain rfl := Option.some.inj same
      obtain ⟨dispatches', spans, issued', takes, takes'⟩ :=
        exists_spans_of_all quiet invokes indifferent issued now'
      refine ⟨_, Span.together spans, Option.bind_eq_some_iff.mpr ⟨dispatches', issued', rfl⟩, ?_,
        batchFinish_of_takes takes, batchFinish_of_takes takes'⟩
      rw [batchOutcome_of_takes takes (map_index_of_all issued),
        batchOutcome_of_takes takes' (map_index_of_all issued')]

end Performing

/-- **Runs keep their pace.** Under quiet hooks a procedure that is run at another time, and at a
place where the same numbers are drawn and the same is said of tasks that die, takes as long and
ends alike. If handlers are heedless, any numbers will do. -/
theorem invoke_inStep {fuel : Nat} {parent : Site} (quiet : parent.config.hooks.Quiet)
    (indifferent : handlers.Indifferent runtime runtime' place place')
    (procedure : Procedure) (args : Value) :
    InStep Invocation.finish Invocation.ending
      (invoke handlers runtime fuel parent place procedure args)
      (invoke handlers runtime' fuel parent place' procedure args) := by
  induction fuel generalizing parent place place' procedure args with
  | zero =>
      intro now now' found finds
      cases finds
  | succ fuel ih =>
      have quiet : (parent.enter ⟨procedure.name, args, handlers.types⟩).config.hooks.Quiet := quiet
      unfold invoke
      simp only [Performer.invoke_of_quiet _ quiet, Option.map_map]
      refine (Performer.stages_inStep _ ?_ (fuel + 1) () (procedure.session args) .start).map
        ?_ ?_ ?_
      · intro _ suspended step
        refine Dispatch.suspension_inStep quiet ?_ indifferent suspended
        intro rest called args
        exact ih quiet (indifferent.below rest) called args
      · exact fun _ _ => rfl
      · exact fun _ _ => rfl
      · exact fun _ _ _ _ same => congrArg Prod.fst same

end Live

end Resumable
