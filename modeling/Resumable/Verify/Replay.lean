import Resumable.Invocation
import Resumable.Verify.Script

/-!
# Replaying expectations

`Replay` is a list of expectations that is used up from its front. Its performer answers suspensions
from the list instead of asking handlers. Each suspension takes the next expectation, whether or not
it is the expected one; if it is, a pair of records is emitted for each command and the
expectation's outcome is given.
-/

namespace Resumable

open Json (Value)

/-- A list of expectations, some of which have been taken. -/
structure Replay where
  remaining : List Expectation
  taken : Nat
deriving DecidableEq

namespace Replay

def ofList (expectations : List Expectation) : Replay :=
  ⟨expectations, 0⟩

/-- The outcome that the record of one command shows: a batch's array is spread over its commands,
and `null` stands for values that it lacks. -/
def share (given : Outcome) (index : Nat) : Outcome :=
  match given with
  | .ok (.array values) => .ok (values[index]?.getD .null)
  | other => other

/-- The pair of records of one command that settles as soon as it is issued. -/
def pair (site : Site) (command : Command) (step index now : Nat) (outcome : Outcome) :
    List Emission :=
  let start := Instant.ofMillis now
  [site.emit now (.command command (UInt64.ofNat step) (UInt64.ofNat index) start),
    site.emit now
      (.commandComplete command (UInt64.ofNat step) (UInt64.ofNat index) start
        (.ofOutcome start start outcome))]

/-- The records of a suspension that is given an outcome. -/
def emissions (site : Site) (suspension : Suspension) (step now : Nat) (given : Outcome) :
    List Emission :=
  match suspension with
  | .one command => pair site command step 0 now given
  | .all commands =>
    commands.zipIdx.flatMap fun (command, index) =>
      pair site command step index now (share given index)

/-- The records of a suspension are the pairs of its commands. -/
theorem exists_pair_of_mem_emissions {site : Site} {suspension : Suspension} {step now : Nat}
    {given : Outcome} {emission : Emission}
    (member : emission ∈ emissions site suspension step now given) :
    ∃ command index outcome, emission ∈ pair site command step index now outcome := by
  cases suspension with
  | one command => exact ⟨command, 0, given, member⟩
  | all commands =>
      obtain ⟨⟨command, index⟩, _, paired⟩ := List.mem_flatMap.mp member
      exact ⟨command, index, share given index, paired⟩

/-- The emissions up to the first that a hook panics on. -/
def untilPanic : List Emission → List Emission × Option String
  | [] => ([], none)
  | emission :: rest =>
    match emission.panic? with
    | some message => ([emission], some message)
    | none => let (others, panic) := untilPanic rest; (emission :: others, panic)

/-- All of some emissions are made, or those up to the first that a hook panics on. -/
theorem untilPanic_cases (emissions : List Emission) :
    ((∀ emission ∈ emissions, emission.panic? = none) ∧
      untilPanic emissions = (emissions, none)) ∨
    ∃ told emission others message, emissions = told ++ emission :: others ∧
      (∀ earlier ∈ told, earlier.panic? = none) ∧ emission.panic? = some message ∧
      untilPanic emissions = (told ++ [emission], some message) := by
  induction emissions with
  | nil => exact .inl ⟨List.forall_mem_nil _, rfl⟩
  | cons first rest ih =>
      cases panics : first.panic? with
      | some message =>
          refine .inr ⟨[], first, rest, message, rfl, List.forall_mem_nil _, panics, ?_⟩
          rw [untilPanic, panics, List.nil_append]
      | none =>
          have calm_cons : ∀ {told : List Emission}, (∀ earlier ∈ told, earlier.panic? = none) →
              ∀ earlier ∈ first :: told, earlier.panic? = none := by
            intro told calm earlier member
            rcases List.mem_cons.mp member with rfl | member
            · exact panics
            · exact calm earlier member
          rcases ih with ⟨calm, all⟩ | ⟨told, emission, others, message, rfl, calm, stops, made⟩
          · refine .inl ⟨calm_cons calm, ?_⟩
            rw [untilPanic, panics, all]
          · refine .inr ⟨first :: told, emission, others, message, rfl, calm_cons calm, stops, ?_⟩
            rw [untilPanic, panics, made, List.cons_append]

def perform (replay : Replay) (site : Site) (suspension : Suspension) (step now : Nat) :
    Performance Replay (List Emission) Violation :=
  match replay.remaining with
  | [] => ⟨replay, [], now, .halted (.overrun replay.taken suspension.toJson)⟩
  | expectation :: rest =>
    let after : Replay := ⟨rest, replay.taken + 1⟩
    match Value.difference? expectation.suspension.toJson suspension.toJson with
    | some difference => ⟨after, [], now, .halted (.commandMismatch replay.taken difference)⟩
    | none =>
      let (emitted, panic) :=
        untilPanic (emissions site suspension step now expectation.outcome)
      match panic with
      | some message => ⟨after, emitted, now, .unwound message⟩
      | none => ⟨after, emitted, now, .settled expectation.outcome⟩

/-- All that a replay may do about a suspension. -/
inductive Performs (site : Site) (suspension : Suspension) (step now : Nat) :
    Replay → Performance Replay (List Emission) Violation → Prop
  | overruns {taken : Nat} :
      Performs site suspension step now ⟨[], taken⟩
        ⟨⟨[], taken⟩, [], now, .halted (.overrun taken suspension.toJson)⟩
  | differs {expectation : Expectation} {rest : List Expectation} {taken : Nat}
      {difference : Json.Difference}
      (found : Value.difference? expectation.suspension.toJson suspension.toJson =
        some difference) :
      Performs site suspension step now ⟨expectation :: rest, taken⟩
        ⟨⟨rest, taken + 1⟩, [], now, .halted (.commandMismatch taken difference)⟩
  | gives {expectation : Expectation} {rest : List Expectation} {taken : Nat}
      (same : Value.difference? expectation.suspension.toJson suspension.toJson = none)
      (calm : ∀ emission ∈ emissions site suspension step now expectation.outcome,
        emission.panic? = none) :
      Performs site suspension step now ⟨expectation :: rest, taken⟩
        ⟨⟨rest, taken + 1⟩, emissions site suspension step now expectation.outcome, now,
          .settled expectation.outcome⟩
  | unwinds {expectation : Expectation} {rest : List Expectation} {taken : Nat}
      {told others : List Emission} {emission : Emission} {message : String}
      (same : Value.difference? expectation.suspension.toJson suspension.toJson = none)
      (whole : emissions site suspension step now expectation.outcome =
        told ++ emission :: others)
      (calm : ∀ earlier ∈ told, earlier.panic? = none)
      (panics : emission.panic? = some message) :
      Performs site suspension step now ⟨expectation :: rest, taken⟩
        ⟨⟨rest, taken + 1⟩, told ++ [emission], now, .unwound message⟩

theorem performs (replay : Replay) (site : Site) (suspension : Suspension) (step now : Nat) :
    Performs site suspension step now replay (replay.perform site suspension step now) := by
  obtain ⟨remaining, taken⟩ := replay
  cases remaining with
  | nil => exact .overruns
  | cons expectation rest =>
      cases found : Value.difference? expectation.suspension.toJson suspension.toJson with
      | some difference =>
          simp only [perform, found]
          exact .differs found
      | none =>
          rcases untilPanic_cases (emissions site suspension step now expectation.outcome) with
            ⟨calm, all⟩ | ⟨told, emission, others, message, whole, calm, panics, made⟩
          · simp only [perform, found, all]
            exact .gives found calm
          · simp only [perform, found, made]
            exact .unwinds found whole calm panics

/-- One suspension that asks for an answer. -/
structure Request where
  site : Site
  suspension : Suspension
  step : Nat

/-- What is done about one request. -/
def answer (replay : Replay) (request : Request) (now : Nat) :
    Performance Replay (List Emission) Violation :=
  replay.perform request.site request.suspension request.step now

/-- Answers requests one after another, each at a virtual time of its own. -/
def performEach (replay : Replay) :
    List (Request × Nat) → List (Performance Replay (List Emission) Violation)
  | [] => []
  | (request, now) :: rest =>
    let performed := replay.answer request now
    performed :: performed.state.performEach rest

/-- Answers requests one after another, all at virtual time zero. -/
def performAll (replay : Replay) (requests : List Request) :
    List (Performance Replay (List Emission) Violation) :=
  replay.performEach (requests.map fun request => (request, 0))

/-- The performer that replays expectations. -/
def performer : Performer Replay (List Emission) Violation where
  perform := fun replay site suspension step now =>
    some (replay.perform site suspension step now)
  errorText := Violation.message

/-- An expectation is taken for every suspension that is given an outcome. -/
theorem length_of_settled {replay : Replay} {site : Site} {suspension : Suspension}
    {step now : Nat} {outcome : Outcome}
    (settled : (replay.perform site suspension step now).ending = .settled outcome) :
    (replay.perform site suspension step now).state.remaining.length + 1 =
      replay.remaining.length := by
  have performs := replay.performs site suspension step now
  generalize replay.perform site suspension step now = performed at performs settled ⊢
  cases performs with
  | overruns => cases settled
  | differs found => cases settled
  | gives same calm => rfl
  | unwinds same whole calm panics => cases settled

/-- A computation whose suspensions are answered from a list comes to an end. -/
theorem stages_isSome (site : Site) {τ : Type} (move : τ → Input → Step × τ) :
    ∀ (fuel : Nat) (replay : Replay) (session : Session τ) (input : Input) (now : Nat),
      replay.remaining.length < fuel →
        (performer.stages site move fuel replay session input now).isSome
  | 0, _, _, _, _, short => absurd short (Nat.not_lt_zero _)
  | fuel + 1, replay, session, input, now, enough => by
    rw [Performer.stages]
    split
    · rfl
    · rfl
    · rfl
    · rename_i suspension after _
      simp only [performer, Option.bind_eq_bind, Option.bind_some]
      split
      · rename_i outcome settled
        have taken := length_of_settled settled
        have rest := stages_isSome site move fuel
          (replay.perform site suspension after.steps now).state after (.ofOutcome outcome)
          (replay.perform site suspension after.steps now).finish (by omega)
        obtain ⟨result, found⟩ := Option.isSome_iff_exists.1 rest
        simp only [performer] at found
        simp [found]
      · rfl

theorem invoke_isSome (site : Site) (procedure : Procedure) (args : Value) (now : Nat)
    (replay : Replay) :
    (performer.invoke site procedure args now (replay.remaining.length + 1) replay).isSome := by
  rw [Performer.invoke]
  simp only []
  split
  · rfl
  · have ends := stages_isSome site procedure.move (replay.remaining.length + 1) replay
      (procedure.session args) .start now (Nat.lt_succ_self _)
    obtain ⟨result, found⟩ := Option.isSome_iff_exists.1 ends
    simp [found]

/-- Runs a procedure whose suspensions are answered from the list. -/
def run (replay : Replay) (site : Site) (procedure : Procedure) (args : Value) :
    Invocation (List Emission) Violation × Replay :=
  (performer.invoke site procedure args 0 (replay.remaining.length + 1) replay).get
    (invoke_isSome site procedure args 0 replay)

end Replay

end Resumable
