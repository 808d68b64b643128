import Resumable.Invocation

/-! # Runs that no hook unwinds

`Hooks.Quiet` hooks may warn but never panic on a record. Under them every
record that is emitted is only heard, by all hooks that hear its kind
(`Site.observed?_emit`), so an invocation always emits its first record, reaches
its stages and ends as they do (`Performer.invoke_of_quiet`).
-/

namespace Resumable

open Json (Value)

/-- No record makes any of the hooks panic. -/
def Hooks.Quiet (hooks : Hooks) : Prop :=
  ∀ record, (hooks.deliver record).panic = none

theorem Hooks.deliverFrom_panic {record : Record} {list : List Hook}
    (calm : ∀ hook ∈ list, ∀ message, hook.reply record ≠ .panic message) (position : Nat) :
    (deliverFrom record position list).panic = none := by
  induction list generalizing position with
  | nil => rfl
  | cons hook rest ih =>
      have others := ih (fun other member => calm other (List.mem_cons_of_mem _ member))
        (position + 1)
      rw [deliverFrom]
      split
      · cases replied : hook.reply record with
        | panic message => exact absurd replied (calm hook List.mem_cons_self message)
        | heard => exact others
        | error error => exact others
      · exact others

/-- Hooks that never reply with a panic are quiet. -/
theorem Hooks.quiet_of_reply {hooks : Hooks}
    (calm : ∀ hook ∈ hooks.toList, ∀ record message, hook.reply record ≠ .panic message) :
    hooks.Quiet := by
  intro record
  exact deliverFrom_panic (fun hook member => calm hook member record) 0

theorem Hooks.quiet_recorder : (⟨[.recorder]⟩ : Hooks).Quiet := by
  apply quiet_of_reply
  intro hook member record message
  obtain rfl := List.mem_singleton.mp member
  exact nofun

namespace Site

@[simp] theorem emit_record (site : Site) (now : Nat) (event : Event) :
    (site.emit now event).record = ⟨site.trace, event⟩ := rfl

@[simp] theorem emit_time (site : Site) (now : Nat) (event : Event) :
    (site.emit now event).time = now := rfl

theorem emit_panic? {site : Site} (quiet : site.config.hooks.Quiet) (now : Nat) (event : Event) :
    (site.emit now event).panic? = none := by
  unfold Emission.panic? emit offer?
  split
  · exact quiet _
  · rfl

end Site

section Observed

/-- The record of an emission, if the hook at `position` hears it. -/
def Emission.observed? (position : Nat) (emission : Emission) : Option Record :=
  if position ∈ emission.delivery.heard then some emission.record else none

/-- The records that the hook at `position` hears. -/
def observed (position : Nat) (emissions : List Emission) : List Record :=
  emissions.filterMap (Emission.observed? position)

end Observed

namespace Performer

variable {σ δ ε : Type} (performer : Performer σ δ ε)

/-- The last record of a run whose stages end in `finale`. -/
def closing (site : Site) (procedure : String) (args : Value) (start : Nat) (finale : Finale ε) :
    Option Emission :=
  (performer.reported? finale.ending).map fun outcome =>
    site.emit finale.finish
      (.callComplete procedure args (.ofMillis start) (UInt64.ofNat finale.steps)
        (.ofOutcome (.ofMillis start) (.ofMillis finale.finish) outcome))

/-- The run that began at `start` and went through `stages` to `finale`. -/
def finished (site : Site) (procedure : String) (args : Value) (start : Nat)
    (stages : List (Stage δ ε)) (finale : Finale ε) : Invocation δ ε where
  site := site
  procedure := procedure
  args := args
  opened := site.emit start (.call procedure args (.ofMillis start))
  stages := stages
  closed := performer.closing site procedure args start finale
  finish := finale.finish
  ending := finale.ending

/-- **Quiet hooks do not shape a run.** A run is made of its stages and their
finale alone. -/
theorem invoke_of_quiet {site : Site} (quiet : site.config.hooks.Quiet) (procedure : Procedure)
    (args : Value) (now fuel : Nat) (state : σ) :
    performer.invoke site procedure args now fuel state =
      (performer.stages site procedure.move fuel state (procedure.session args) .start now).map
        fun result =>
          (performer.finished site procedure.name args now result.1 result.2.1, result.2.2) := by
  have opened := Site.emit_panic? quiet now (.call procedure.name args (.ofMillis now))
  unfold invoke
  simp only [opened]
  cases performer.stages site procedure.move fuel state (procedure.session args) .start now with
  | none => rfl
  | some result =>
      obtain ⟨stages, finale, after⟩ := result
      have closed : (performer.closing site procedure.name args now finale).bind
          Emission.panic? = none := by
        unfold closing
        cases performer.reported? finale.ending with
        | none => rfl
        | some outcome => exact Site.emit_panic? quiet _ _
      unfold closing at closed
      simp only [Option.bind_eq_bind, Option.bind_some, Option.map_some, closed, finished,
        closing, Option.pure_def]

/-- A run on whose two records no hook panicked is made of its stages and their
finale alone. -/
theorem finished_of_invoke {site : Site} {procedure : Procedure} {args : Value} {now fuel : Nat}
    {state last : σ} {invocation : Invocation δ ε}
    (found : performer.invoke site procedure args now fuel state = some (invocation, last))
    (opened : invocation.opened.panic? = none)
    (closed : ∀ emission, invocation.closed = some emission → emission.panic? = none) :
    ∃ stages finale,
      performer.stages site procedure.move fuel state (procedure.session args) .start now =
        some (stages, finale, last) ∧
      invocation = performer.finished site procedure.name args now stages finale := by
  unfold invoke at found
  dsimp only at found
  split at found
  · rename_i message panics
    cases found
    rw [panics] at opened
    cases opened
  · simp only [Option.bind_eq_bind, Option.bind_eq_some_iff, Option.pure_def, Option.some.injEq,
      Prod.mk.injEq] at found
    obtain ⟨⟨stages, finale, after⟩, staged, rfl, rfl⟩ := found
    have calm : (performer.closing site procedure.name args now finale).bind
        Emission.panic? = none := by
      cases last : performer.closing site procedure.name args now finale with
      | none => rfl
      | some emission => exact closed emission last
    unfold closing at calm
    refine ⟨stages, finale, staged, ?_⟩
    simp only [calm, finished, closing]

end Performer

end Resumable
