import Resumable.Procedure
import Resumable.Site

/-!
# Invocations

An `Invocation` is one run of a procedure, from its `call` record to its `call_complete` record,
with a `Stage` for each suspension of the computation. Suspensions are answered by a `Performer`:
with an outcome, by halting the run with an error of its own, or by unwinding it with a panic. The
evidence of a stage is what the performer tells about it.

The virtual clock only moves while a suspension is performed.
-/

namespace Resumable

open Json (Value)

/-- How a stretch of a run ends. -/
inductive Ending (ε : Type)
  | settled (outcome : Outcome)
  /-- The performer gives the run up. -/
  | halted (error : ε)
  /-- A panic unwinds it. -/
  | unwound (message : String)
deriving DecidableEq

namespace Ending

variable {ε : Type}

def outcome? : Ending ε → Option Outcome
  | settled outcome => some outcome
  | _ => none

theorem outcome?_eq_none {ending : Ending ε} (unsettled : ∀ outcome, ending ≠ .settled outcome) :
    ending.outcome? = none := by
  cases ending with
  | settled outcome => exact absurd rfl (unsettled outcome)
  | halted error => rfl
  | unwound message => rfl

end Ending

/-- What a performer of state `σ` did about one suspension. -/
structure Performance (σ δ ε : Type) where
  state : σ
  /-- What there is to tell about it. -/
  evidence : δ
  finish : Nat
  ending : Ending ε

/-- Something that performs suspensions: from its state, a site, a suspension, the number of the
step and the time it finds what happens. It finds nothing when its resources run out. -/
structure Performer (σ δ ε : Type) where
  perform : σ → Site → Suspension → (step now : Nat) → Option (Performance σ δ ε)
  errorText : ε → String

/-- One suspension of a computation and what became of it. -/
structure Stage (δ ε : Type) where
  suspension : Suspension
  step : Nat
  start : Nat
  evidence : δ
  finish : Nat
  ending : Ending ε

structure Invocation (δ ε : Type) where
  site : Site
  procedure : String
  args : Value
  /-- The `call` record. -/
  opened : Emission
  stages : List (Stage δ ε)
  /-- The `call_complete` record. -/
  closed : Option Emission
  finish : Nat
  ending : Ending ε

/-- How the stages of a computation end. -/
structure Finale (ε : Type) where
  finish : Nat
  /-- How many inputs the computation was given after its start. -/
  steps : Nat
  ending : Ending ε

namespace Performer

variable {σ δ ε : Type}

/-- Gives a computation an input, and then the outcome of every suspension that follows. -/
def stages (performer : Performer σ δ ε) (site : Site) {τ : Type} (move : τ → Input → Step × τ) :
    (fuel : Nat) → σ → Session τ → Input → (now : Nat) →
      Option (List (Stage δ ε) × Finale ε × σ)
  | 0, _, _, _, _ => none
  | fuel + 1, state, session, input, now =>
    match session.feed move input with
    | .error refusal =>
      some ([], ⟨now, session.steps, .settled (.error ⟨.computation, refusal.message⟩)⟩, state)
    | .ok (.done value, session) => some ([], ⟨now, session.steps, .settled (.ok value)⟩, state)
    | .ok (.failed failure, session) =>
      some ([], ⟨now, session.steps, .settled (.error failure)⟩, state)
    | .ok (.suspend suspension, session) => do
      let performed ← performer.perform state site suspension session.steps now
      let stage : Stage δ ε :=
        ⟨suspension, session.steps, now, performed.evidence, performed.finish, performed.ending⟩
      match performed.ending with
      | .settled outcome => do
        let (stages, finale, state) ←
          performer.stages site move fuel performed.state session (.ofOutcome outcome)
            performed.finish
        pure (stage :: stages, finale, state)
      | ending => pure ([stage], ⟨performed.finish, session.steps, ending⟩, performed.state)

/-- The outcome that the last record of a run reports; a run that unwinds has no such record. -/
def reported? (performer : Performer σ δ ε) : Ending ε → Option Outcome
  | .settled outcome => some outcome
  | .halted error => some (.error ⟨.aborted, performer.errorText error⟩)
  | .unwound _ => none

/-- Runs a procedure. The computation may be given `fuel` inputs, its start among them. -/
def invoke (performer : Performer σ δ ε) (site : Site) (procedure : Procedure) (args : Value)
    (now fuel : Nat) (state : σ) : Option (Invocation δ ε × σ) :=
  let start := Instant.ofMillis now
  let opened := site.emit now (.call procedure.name args start)
  match opened.panic? with
  | some message =>
    some (⟨site, procedure.name, args, opened, [], none, now, .unwound message⟩, state)
  | none => do
    let (stages, finale, state) ←
      performer.stages site procedure.move fuel state (procedure.session args) .start now
    let closed := (performer.reported? finale.ending).map fun outcome =>
      site.emit finale.finish
        (.callComplete procedure.name args start (UInt64.ofNat finale.steps)
          (.ofOutcome start (Instant.ofMillis finale.finish) outcome))
    let ending :=
      match closed.bind Emission.panic? with
      | some message => .unwound message
      | none => finale.ending
    pure (⟨site, procedure.name, args, opened, stages, closed, finale.finish, ending⟩, state)

end Performer

end Resumable
