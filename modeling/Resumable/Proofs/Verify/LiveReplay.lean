import Resumable.Proofs.Live.Accounts
import Resumable.Proofs.Verify.Transcript

/-! # Live runs replay in a verification

The transcript of a live run has no fault, and a verification of the procedure
against it finds nothing wrong. The verification emits the records that the
outermost invocation of the run emitted itself, apart from times, the run's
generated identity and the handlers in its frame; only in a batch that failed do
all its commands show the failure of the batch (`Host.replays_of_runs`).
-/

namespace Resumable

open Json (Value)

section Plain

/-- How something settled, without times. -/
def Completion.plain (completion : Completion) : Completion :=
  { completion with finish := ⟨0⟩, latency := .zero }

/-- An event without times. -/
def Event.plain : Event → Event
  | call procedure args _ => call procedure args ⟨0⟩
  | callComplete procedure args _ steps completion =>
    callComplete procedure args ⟨0⟩ steps completion.plain
  | command issued step index _ => command issued step index ⟨0⟩
  | commandComplete issued step index _ completion =>
    commandComplete issued step index ⟨0⟩ completion.plain

/-- A trace without the handlers in its frames, and without the run's identity if
this is not the fixed one. -/
def Trace.plain (config : Config) (trace : Trace) : Trace where
  name := trace.name
  run := if config.run.isSome then trace.run else ⟨""⟩
  stack := trace.stack.map fun frame => { frame with handlers := [] }

/-- What a record says apart from times, handlers and generated identities. -/
def Record.plain (config : Config) (record : Record) : Record :=
  ⟨record.trace.plain config, record.event.plain⟩

/-- The record of a command as if it had failed. -/
def Record.withFailure (failure : Failure) (record : Record) : Record :=
  match record.event with
  | .commandComplete issued step index start completion =>
    ⟨record.trace, .commandComplete issued step index start
      { completion with success := false, result := none, failure := some failure }⟩
  | _ => record

theorem Completion.plain_ofOutcome (start finish start' finish' : Instant) (outcome : Outcome) :
    (ofOutcome start finish outcome).plain = (ofOutcome start' finish' outcome).plain := by
  cases outcome <;> rfl

theorem Record.plain_congr {config : Config} {trace trace' : Trace} {event event' : Event}
    (traces : trace'.plain config = trace.plain config) (events : event'.plain = event.plain) :
    plain config ⟨trace', event'⟩ = plain config ⟨trace, event⟩ := by
  unfold plain
  rw [traces, events]

theorem Event.plain_commandComplete (command : Command) (step index : UInt64)
    (start finish start' finish' : Instant) (outcome : Outcome) :
    (commandComplete command step index start (.ofOutcome start finish outcome)).plain =
      (commandComplete command step index start' (.ofOutcome start' finish' outcome)).plain :=
  congrArg (commandComplete command step index ⟨0⟩) (Completion.plain_ofOutcome ..)

theorem Record.withFailure_commandComplete (trace : Trace) (command : Command)
    (step index : UInt64) (start finish : Instant) (outcome : Outcome) (failure : Failure) :
    withFailure failure ⟨trace, .commandComplete command step index start
      (.ofOutcome start finish outcome)⟩ =
      ⟨trace, .commandComplete command step index start
        (.ofOutcome start finish (.error failure))⟩ := by
  cases outcome <;> rfl

/-- The sites of a live run and of a check differ in what is left out. -/
theorem Trace.plain_site (config : Config) (hooks : Hooks) (fresh again : RunId)
    (procedure : String) (args : Value) (handlers types : List String) :
    ((Site.root { config with hooks } again).enter ⟨procedure, args, types⟩).trace.plain config =
      ((Site.root config fresh).enter ⟨procedure, args, handlers⟩).trace.plain config := by
  unfold Trace.plain
  cases fixed : config.run with
  | none => rfl
  | some run => simp only [Site.root, Site.enter, Site.trace, fixed, Option.getD_some]; rfl

end Plain

section Amended

/-- The failure of a batch that failed. -/
def Stage.batchFailure? {δ ε : Type} (stage : Stage δ ε) : Option Failure :=
  match stage.suspension, stage.ending with
  | .all _, .settled (.error failure) => some failure
  | _, _ => none

/-- The record of a settled command of a step, with the failure of its batch if this failed. -/
def Stage.amend {δ ε : Type} (stage : Stage δ ε) (record : Record) : Record :=
  match stage.batchFailure? with
  | some failure => record.withFailure failure
  | none => record

namespace LiveInvocation

/-- A record of an invocation; the record of a settled command has the failure of
its batch if this failed. -/
def amend (invocation : LiveInvocation) : Mark → Record → Record
  | .settled step _, record =>
    match invocation.stages[step]? with
    | some stage => stage.amend record
    | none => record
  | _, record => record

/-- An invocation's own records; those of the settled commands of a batch that failed
have its failure. -/
def amended (invocation : LiveInvocation) : List Record :=
  invocation.log.map fun entry => invocation.amend entry.1 entry.2

end LiveInvocation

end Amended

section Steps

variable {config : Config} {site site' : Site}

theorem Dispatch.Settles.marked_eq {dispatch : Dispatch} {command : Command}
    {step index now : Nat} {outcome : Outcome}
    (settles : dispatch.Settles site command step index now outcome) :
    dispatch.marked step index =
      [(.issued step index, site.emit now
          (.command command (UInt64.ofNat step) (UInt64.ofNat index) (.ofMillis now))),
        (.settled step index, site.emit dispatch.finish
          (.commandComplete command (UInt64.ofNat step) (UInt64.ofNat index) (.ofMillis now)
            (.ofOutcome (.ofMillis now) (.ofMillis dispatch.finish) outcome)))] := by
  rw [marked, settles.opened, settles.closed]
  rfl

/-- A command of a step that succeeds shows its own outcome in a replay, and one of
a batch that fails the failure of the batch. -/
theorem Stage.Answered.shown {stage : Stage (List Dispatch) Empty} {n : Nat} {outcome : Outcome}
    (answered : stage.Answered site n outcome) {i : Nat} {dispatch : Dispatch}
    (found : stage.evidence[i]? = some dispatch) :
    (stage.batchFailure? = none ∧
      dispatch.ending = .settled (stage.suspension.shown outcome i)) ∨
      ∃ failure, stage.batchFailure? = some failure ∧
        stage.suspension.shown outcome i = .error failure := by
  have gives := answered.gives
  have ending := answered.ending
  unfold batchFailure?
  cases suspends : stage.suspension with
  | one command =>
      rw [suspends] at gives
      obtain ⟨only, evidence, settled⟩ := gives
      rw [evidence] at found
      cases i with
      | zero =>
          cases found
          exact .inl ⟨rfl, settled⟩
      | succ i => cases found
  | all commands =>
      rw [suspends] at gives
      cases outcome with
      | ok value =>
          obtain ⟨values, rfl, _, each⟩ := gives.values value rfl
          obtain ⟨element, settled, element_eq⟩ := each i dispatch found
          rw [ending, settled]
          refine .inl ⟨rfl, ?_⟩
          simp only [Suspension.shown, Replay.share, element_eq, Option.getD_some]
      | error failure =>
          rw [ending]
          exact .inr ⟨failure, rfl, rfl⟩

/-- A replay of a step emits its records, with the failure of its batch if this failed. -/
theorem Stage.Answered.map_plain_marked {stage : Stage (List Dispatch) Empty} {n : Nat}
    {outcome : Outcome} (answered : stage.Answered site n outcome)
    (same : site'.trace.plain config = site.trace.plain config)
    {amend : Mark → Record → Record}
    (issued : ∀ i record, amend (.issued n i) record = record)
    (settled : ∀ i record, amend (.settled n i) record = stage.amend record) :
    (stage.marked n).map (fun entry => (amend entry.1 entry.2.record).plain config) =
      (stage.replayed site' 0).map fun emission => emission.record.plain config := by
  unfold replayed marked
  rw [answered.ending]
  simp only [Ending.outcome?, Replay.emissions_eq, List.map_flatMap, answered.numbered]
  apply flatMap_zipIdx_congr answered.size
  intro i dispatch command found commanded
  obtain ⟨other, result, found', settles⟩ := answered.commands i command commanded
  obtain rfl := Option.some.inj (found.symm.trans found')
  have shown := answered.shown found
  rw [settles.marked_eq]
  simp only [List.map_cons, List.map_nil, issued, settled, Replay.pair, Site.emit_record]
  refine congrArg₂ List.cons (Record.plain_congr same.symm rfl) ?_
  congr 1
  unfold Stage.amend
  rcases answered.shown found with ⟨succeeds, ending⟩ | ⟨failure, fails, shown⟩
  · obtain rfl := Ending.settled.inj (settles.ending.symm.trans ending)
    rw [succeeds]
    exact Record.plain_congr same.symm (Event.plain_commandComplete ..)
  · rw [fails, shown]
    simp only [Record.withFailure_commandComplete]
    exact Record.plain_congr same.symm (Event.plain_commandComplete ..)

/-- A replay of the steps of an invocation emits its records. -/
theorem LiveInvocation.Completes.map_plain_marked {invocation : LiveInvocation} {outcome : Outcome}
    (completes : invocation.Completes outcome)
    (same : site'.trace.plain config = invocation.site.trace.plain config) :
    invocation.marked.map (fun entry => (invocation.amend entry.1 entry.2.record).plain config) =
      (site'.emit 0 (.call invocation.procedure invocation.args (.ofMillis 0)) ::
        (invocation.stages.flatMap (Stage.replayed site' 0) ++
          [site'.emit 0 (.callComplete invocation.procedure invocation.args (.ofMillis 0)
            (UInt64.ofNat invocation.stages.length)
            (.ofOutcome (.ofMillis 0) (.ofMillis 0) outcome))])).map
        fun emission => emission.record.plain config := by
  have stages : (invocation.stages.zipIdx.flatMap fun entry => entry.1.marked entry.2).map
      (fun entry => (invocation.amend entry.1 entry.2.record).plain config) =
      (invocation.stages.flatMap (Stage.replayed site' 0)).map
        fun emission => emission.record.plain config := by
    rw [List.map_flatMap, List.map_flatMap]
    apply flatMap_zipIdx_eq
    intro n stage found
    obtain ⟨given, answered⟩ := completes.proceeds.answered n stage found
    rw [Nat.zero_add] at answered
    apply answered.map_plain_marked same (fun i record => rfl)
    intro i record
    simp only [amend, found]
  unfold marked
  rw [completes.opened, completes.closed]
  simp only [List.map_cons, List.map_append, stages, Option.toList_some, List.map_nil,
    Site.emit_record]
  refine congrArg₂ List.cons (Record.plain_congr same.symm rfl) ?_
  refine congrArg (_ ++ ·) (congrArg (fun record => [record]) ?_)
  apply Record.plain_congr same.symm
  exact congrArg (Event.callComplete _ _ ⟨0⟩ _) (Completion.plain_ofOutcome ..)

/-- The log has the amended records in another order. -/
theorem LiveInvocation.amended_perm (invocation : LiveInvocation) :
    (invocation.amended.map (Record.plain config)).Perm
      (invocation.marked.map fun entry =>
        (invocation.amend entry.1 entry.2.record).plain config) := by
  unfold amended log
  rw [List.map_map, List.map_map]
  exact (chronological_perm _ invocation.marked).map _

end Steps

section Replays

variable {host : Host} {config : Config} {fresh : RunId} {procedure : Procedure} {args : Value}
  {invocation : LiveInvocation}

theorem LiveInvocation.Completes.depth_of_mem_own {outcome : Outcome}
    (completes : invocation.Completes outcome) {emission : Emission}
    (own : emission ∈ invocation.own) : emission.record.trace.depth = invocation.site.depth := by
  rw [← invocation.map_snd_marked] at own
  obtain ⟨⟨mark, _⟩, marked, rfl⟩ := List.mem_map.mp own
  obtain ⟨now, event, emitted⟩ := completes.emit_of_mem_marked marked
  rw [emitted]
  rfl

theorem Site.Inside.depth_lt {inner outer : Site} (inside : inner.Inside outer) :
    outer.depth < inner.depth := by
  obtain ⟨frame, frames, rfl⟩ := inside
  simp only [Site.depth, List.length_append, List.length_cons]
  omega

/-- The records of the outermost invocation are those that show its frame alone. -/
theorem Host.filter_depth_of_runs (runs : host.Runs config fresh procedure args invocation)
    (calm : ∀ emission ∈ invocation.emissions, emission.panic? = none) :
    ((timeline invocation.emissions).filter fun emission =>
      emission.record.trace.depth = 1).map Emission.record = invocation.log.map Prod.snd := by
  obtain ⟨runtime, fuel, invoked⟩ := runs
  have calm' := LiveInvocation.calm_of_emissions calm
  obtain ⟨_, tree⟩ := completes_of_invoke invoked calm'
  obtain ⟨⟨outcome, completes⟩, _⟩ :=
    tree invocation (LiveInvocation.mem_tree_iff.mpr (.inl rfl))
  have outermost : invocation.site.depth = 1 := by
    cases fuel with
    | zero => cases invoked
    | succ fuel =>
        obtain ⟨stages, finale, _, rfl⟩ := exists_course_of_invoke invoked calm'.own
        rfl
  let shallow : Emission → Bool := fun emission => emission.record.trace.depth = 1
  have interleaves := (invocation.interleaves_own.chronological Emission.time).filterMap
    (Option.guard shallow)
  rw [List.filterMap_eq_filter, invocation.tree_eq, List.map_cons, List.map_cons,
    List.map_cons] at interleaves
  have selected := interleaves.eq_of_empty fun part among => by
    rw [List.map_map, List.map_map] at among
    obtain ⟨inner, member, rfl⟩ := List.mem_map.mp among
    apply List.filter_eq_nil_iff.mpr
    intro emission emitted
    obtain ⟨stage, staged, dispatch, issued, call, called, nested⟩ := mem_stageTree_iff.mp member
    have inside := completes.inner stage staged dispatch issued call called inner nested
    have deeper := inside.depth_lt
    obtain ⟨⟨_, completes'⟩, _⟩ := tree inner (LiveInvocation.mem_tree_iff.mpr
      (.inr ⟨stage, staged, dispatch, issued, call, called, nested⟩))
    have depth := completes'.depth_of_mem_own ((chronological_perm _ _).mem_iff.mp emitted)
    simp only [depth, decide_eq_true_eq]
    omega
  have kept : (chronological Emission.time invocation.own).filter shallow =
      chronological Emission.time invocation.own := by
    apply List.filter_eq_self.mpr
    intro emission emitted
    have depth := completes.depth_of_mem_own ((chronological_perm _ _).mem_iff.mp emitted)
    simp only [shallow, depth, outermost, decide_true]
  rw [invocation.map_snd_log]
  exact congrArg (List.map Emission.record) (selected.trans kept)

/-- **A live run replays.** If no hook panics in it, its transcript has no fault, and
a verification of the procedure against the transcript finds nothing wrong. With
the same name and fixed identity the verification emits what the outermost
invocation emitted itself, apart from times, a generated identity and the handlers
of its frame; the commands of a batch that failed show its failure. -/
theorem Host.replays_of_runs {hooks : Hooks} (quiet : hooks.Quiet) (again : RunId)
    (runs : host.Runs config fresh procedure args invocation)
    (calm : ∀ emission ∈ invocation.emissions, emission.panic? = none) :
    let script := invocation.transcript
    let check := Verification.run { config with hooks } again procedure script
    ∃ outcome, invocation.ending = .settled outcome ∧ script.args = args ∧
      script.checked = .ok (.ofOutcome outcome) ∧ check.verdict = .ok none ∧
      (check.emissions.map fun emission => emission.record.plain config).Perm
        (invocation.amended.map (Record.plain config)) ∧
      ((timeline invocation.emissions).filter fun emission =>
        emission.record.trace.depth = 1).map Emission.record = invocation.log.map Prod.snd := by
  intro script check
  have depth := Host.filter_depth_of_runs runs calm
  obtain ⟨runtime, fuel, invoked⟩ := runs
  have calm' := LiveInvocation.calm_of_emissions calm
  obtain ⟨_, tree⟩ := completes_of_invoke invoked calm'
  obtain ⟨⟨outcome, completes⟩, _⟩ :=
    tree invocation (LiveInvocation.mem_tree_iff.mpr (.inl rfl))
  have transcript : script = _ := invocation.transcript_eq completes.ending
  cases fuel with
  | zero => cases invoked
  | succ fuel =>
      obtain ⟨stages, finale, course, rfl⟩ := exists_course_of_invoke invoked calm'.own
      have quiet' : ({ config with hooks } : Config).hooks.Quiet := quiet
      obtain ⟨verdict, emitted⟩ := Verification.run_transcript quiet' again course
        completes.ending completes.ending
      have given : script.args = args := by rw [transcript]; rfl
      refine ⟨outcome, completes.ending, given, by rw [transcript]; rfl, verdict, ?_, depth⟩
      have same :
          (Verification.site { config with hooks } again procedure script).trace.plain config =
            ((Site.root config fresh).enter ⟨procedure.name, args, host.handlers.types⟩).trace.plain
              config := by
        rw [Verification.site, given]
        exact Trace.plain_site ..
      have replayed := completes.map_plain_marked same
      have emits := congrArg (List.map fun emission => emission.record.plain config) emitted
      rw [emits]
      exact (List.Perm.of_eq replayed.symm).trans (LiveInvocation.amended_perm _).symm

/-- Of the commands of a batch one succeeds and then the other fails; in the replay
both show the failure. -/
theorem Host.replays_of_failed_batch :
    let config : Config := ⟨some "sync", none, ⟨[.recorder]⟩⟩
    let batch : Suspension := .all [.ofType "get", .ofType "put"]
    let host : Host := ⟨(Handlers.empty.insert "get" fun _ _ =>
      .sleep 1 (.settle (.error ⟨.handler, "lost"⟩))).insert "put" fun _ _ =>
      .settle (.ok .null)⟩
    let procedure : Procedure := .errand "fetch" batch
    ∃ invocation : LiveInvocation, host.Runs config ⟨"run"⟩ procedure .null invocation ∧
      invocation.transcript.expectations = [⟨batch, .error ⟨.handler, "lost"⟩⟩] ∧
      let check := Verification.run config ⟨"again"⟩ procedure invocation.transcript
      check.verdict = .ok none ∧
        (check.emissions.map fun emission => emission.record.plain config).Perm
          (invocation.amended.map (Record.plain config)) := by
  intro config batch host procedure
  have ran : (invoke host.handlers default 2 (.root config ⟨"run"⟩) [] procedure .null 0).map
      (fun invocation : LiveInvocation => (invocation.transcript.expectations,
        invocation.emissions.all fun emission => emission.panic? = none)) =
      some ([⟨batch, .error ⟨.handler, "lost"⟩⟩], true) := by
    decide +kernel
  obtain ⟨invocation, invoked, shown⟩ := Option.map_eq_some_iff.mp ran
  obtain ⟨expectations, calm⟩ := Prod.mk.inj shown
  have runs : host.Runs config ⟨"run"⟩ procedure .null invocation := ⟨_, _, invoked⟩
  obtain ⟨_, _, _, _, verdict, records, _⟩ :=
    Host.replays_of_runs Hooks.quiet_recorder ⟨"again"⟩ runs fun emission member =>
      of_decide_eq_true (List.all_eq_true.mp calm emission member)
  exact ⟨invocation, runs, expectations, verdict, records⟩

end Replays

end Resumable
