import Resumable.Proofs.Verify.Conformance

/-! # The transcript of a run

The transcript of a run is the script that declares the suspensions of the run in
order, each with the outcome that it was given, and then how the run settled. It
does not matter what performed the suspensions: the transcript of a run that
settles has no fault, a verification of the procedure against it finds nothing
wrong, and the records that it emits are determined by the steps of the run
(`Verification.run_transcript`).
-/

namespace Resumable

open Json (Value)

theorem Json.Value.difference?_self (value : Value) : Value.difference? value value = none :=
  (Value.difference?_eq_none_iff value value).mpr
    (Value.eqWith_refl Json.Number.sameValue_refl value)

/-- The terminal that declares an outcome. -/
def Terminal.ofOutcome : Outcome → Terminal
  | .ok value => .returns value
  | .error failure => .throws failure

theorem Terminal.violation?_ofOutcome (outcome : Outcome) :
    (ofOutcome outcome).violation? outcome = none := by
  cases outcome with
  | ok value => rw [ofOutcome, violation?, Value.difference?_self, Option.map_none]
  | error failure => exact if_pos rfl

/-- The clauses that declare an expectation. -/
def Expectation.clauses (expectation : Expectation) : List Clause :=
  [.suspends expectation.suspension, .gives expectation.outcome]

section Transcript

variable {δ ε : Type}

/-- The expectation that a step meets, if its suspension was given an outcome. -/
def Stage.expectation? (stage : Stage δ ε) : Option Expectation :=
  stage.ending.outcome?.map fun outcome => ⟨stage.suspension, outcome⟩

/-- The script that declares what happened in a run. -/
def Invocation.transcript (invocation : Invocation δ ε) : Script :=
  Script.ofClauses invocation.args
    ((invocation.stages.filterMap Stage.expectation?).flatMap Expectation.clauses ++
      (invocation.ending.outcome?.map fun outcome => .ends (.ofOutcome outcome)).toList)

theorem Script.foldl_clauses (args : Value) (declared expectations : List Expectation) :
    (expectations.flatMap Expectation.clauses).foldl append ⟨args, declared, none, none, none⟩ =
      ⟨args, declared ++ expectations, none, none, none⟩ := by
  induction expectations generalizing declared with
  | nil => rw [List.append_nil]; rfl
  | cons expectation rest ih =>
      have declares : expectation.clauses.foldl append ⟨args, declared, none, none, none⟩ =
          ⟨args, declared ++ [expectation], none, none, none⟩ := rfl
      rw [List.flatMap_cons, List.foldl_append, declares, ih, List.append_assoc]
      rfl

/-- The transcript of a run that settles has no fault. -/
theorem Invocation.transcript_eq {invocation : Invocation δ ε} {outcome : Outcome}
    (settles : invocation.ending = .settled outcome) :
    invocation.transcript = ⟨invocation.args, invocation.stages.filterMap Stage.expectation?, none,
      some (.ofOutcome outcome), none⟩ := by
  unfold transcript Script.ofClauses Script.ofArgs
  rw [List.foldl_append, Script.foldl_clauses, settles]
  rfl

/-- The records of a step when it is replayed. -/
def Stage.replayed (site : Site) (now : Nat) (stage : Stage δ ε) : List Emission :=
  match stage.ending.outcome? with
  | some outcome => Replay.emissions site stage.suspension stage.step now outcome
  | none => []

end Transcript

section Simulation

variable {σ δ ε τ : Type} {performer : Performer σ δ ε} {site site' : Site}
  {move : τ → Input → Step × τ}

/-- **A replay goes as the run did.** A computation that is given its transcript's
outcomes goes through the same steps and settles in the same way, and nothing of
the transcript is left. -/
theorem Replay.replay_of_course (quiet : site'.config.hooks.Quiet) {step now now' taken : Nat}
    {own last : σ} {last' : Replay} {state : τ} {input : Input} {stages : List (Stage δ ε)}
    {stages' : List (Stage (List Emission) Violation)} {finale : Finale ε}
    {finale' : Finale Violation} {outcome : Outcome}
    (course : performer.Course site move step own state input now stages finale last)
    (settles : finale.ending = .settled outcome)
    (course' : Replay.performer.Course site' move step
      ⟨stages.filterMap Stage.expectation?, taken⟩ state input now' stages' finale' last') :
    finale' = ⟨now', finale.steps, .settled outcome⟩ ∧ last'.remaining = [] ∧
      stages'.flatMap Stage.evidence = stages.flatMap (Stage.replayed site' now') := by
  induction course generalizing taken stages' with
  | done answer =>
      cases settles
      cases course' with
      | done answer' =>
          cases answer.symm.trans answer'
          exact ⟨rfl, rfl, rfl⟩
      | failed answer' => cases answer.symm.trans answer'
      | stopped answer' => cases answer.symm.trans answer'
      | resumed answer' => cases answer.symm.trans answer'
  | failed answer =>
      cases settles
      cases course' with
      | done answer' => cases answer.symm.trans answer'
      | failed answer' =>
          cases answer.symm.trans answer'
          exact ⟨rfl, rfl, rfl⟩
      | stopped answer' => cases answer.symm.trans answer'
      | resumed answer' => cases answer.symm.trans answer'
  | stopped answer performs stops => exact absurd settles (stops outcome)
  | @resumed step now own last state after input suspension performed given stages finale
      answer performs gives rest ih =>
      -- The next expectation is the one that this step met.
      have expected : (⟨suspension, step, now, performed.evidence, performed.finish,
          performed.ending⟩ : Stage δ ε).expectation? = some ⟨suspension, given⟩ := by
        simp only [Stage.expectation?, gives, Ending.outcome?, Option.map_some]
      rw [List.filterMap_cons_some expected] at course'
      have same : Replay.perform ⟨⟨suspension, given⟩ :: stages.filterMap Stage.expectation?, taken⟩
          site' suspension step now' = _ :=
        perform_of_same quiet (Value.difference?_self suspension.toJson)
      cases course' with
      | done answer' => cases answer.symm.trans answer'
      | failed answer' => cases answer.symm.trans answer'
      | stopped answer' performs' stops' =>
          cases answer.symm.trans answer'
          obtain rfl := Option.some.inj performs'
          rw [same] at stops'
          exact absurd rfl (stops' given)
      | resumed answer' performs' gives' rest' =>
          cases answer.symm.trans answer'
          obtain rfl := Option.some.inj performs'
          rw [same] at gives' rest' ⊢
          cases gives'
          obtain ⟨ends, nothing, emitted⟩ := ih settles rest'
          refine ⟨ends, nothing, ?_⟩
          rw [List.flatMap_cons, List.flatMap_cons, emitted]
          simp only [Stage.replayed, gives, Ending.outcome?]

/-- **A verification against the transcript of a run finds nothing wrong**, and it
emits the records of the run's steps when they are replayed. -/
theorem Verification.run_transcript {config : Config} (quiet : config.hooks.Quiet)
    (fresh : RunId) {procedure : Procedure} {invocation : Invocation δ ε} {own last : σ}
    {start : Nat} {finale : Finale ε} {outcome : Outcome}
    (course : performer.Course site procedure.move 0 own (procedure.initial invocation.args) .start
      start invocation.stages finale last)
    (settles : finale.ending = .settled outcome)
    (settles' : invocation.ending = .settled outcome) :
    let place := Verification.site config fresh procedure invocation.transcript
    let check := run config fresh procedure invocation.transcript
    check.verdict = .ok none ∧
      check.emissions =
        place.emit 0 (.call procedure.name invocation.args (.ofMillis 0)) ::
          (invocation.stages.flatMap (Stage.replayed place 0) ++
            [place.emit 0 (.callComplete procedure.name invocation.args (.ofMillis 0)
              (UInt64.ofNat invocation.stages.length)
              (.ofOutcome (.ofMillis 0) (.ofMillis 0) outcome))]) := by
  intro place check
  have transcript := invocation.transcript_eq settles'
  have checked : invocation.transcript.checked = .ok (.ofOutcome outcome) := by
    rw [transcript]
    rfl
  obtain ⟨stages', finale', last', course', ran⟩ := exists_course quiet fresh procedure checked
  have args : invocation.transcript.args = invocation.args := by rw [transcript]
  have expectations : invocation.transcript.expectations =
      invocation.stages.filterMap Stage.expectation? := by rw [transcript]
  rw [args, expectations] at course'
  have quiet' : place.config.hooks.Quiet := quiet
  have steps := course.steps_eq settles
  rw [Nat.zero_add] at steps
  obtain ⟨rfl, nothing, emitted⟩ := Replay.replay_of_course quiet' course settles course'
  have checks : check = _ := ran
  rw [checks]
  refine ⟨?_, ?_⟩
  · simp only [judge, nothing, Terminal.violation?_ofOutcome]
  · simp only [emissions, Option.map_some, Option.getD_some, ScriptedInvocation.emissions,
      Performer.finished, Performer.closing, Performer.reported?, Option.toList_some, emitted, args,
      steps]
    rfl

end Simulation

end Resumable
