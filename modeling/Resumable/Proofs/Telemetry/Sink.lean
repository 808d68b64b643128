import Resumable.Proofs.Live.Accounts
import Resumable.Proofs.Loop
import Resumable.Proofs.Telemetry.RoundTrip
import Resumable.Verify.Verdict

/-! # What runs write

All records that a run writes are among those that `Event.Reports` lists: the records
of a verification (`Verification.reports_of_run`) and those of a live run in which no
hook panics, with all that its handlers run (`Host.reports_of_runs`). So a sink that
reads their wire forms finds all of them as they were written, but for successes with
`null` (`Emission.Reports.read`).
-/

namespace Resumable

open Json (Value)

/-- The record is one that runs write. -/
def Emission.Reports (emission : Emission) : Prop :=
  ∃ settled, emission.record.event.Reports settled

/-- A sink reads such a record as it was written unless it reports the value `null`. -/
theorem Emission.Reports.read {emission : Emission} (reports : emission.Reports) :
    ∃ settled, emission.record.event.Reports settled ∧
      (Record.ofJson? emission.record.toJson = some emission.record ↔
        settled ≠ some (.ok .null)) := by
  obtain ⟨settled, told⟩ := reports
  exact ⟨settled, told, Record.ofJson?_eq_self_iff told⟩

theorem Site.reports_call (site : Site) (now : Nat) (procedure : String) (args : Value)
    (start : Instant) : (site.emit now (.call procedure args start)).Reports :=
  ⟨none, .call procedure args start⟩

theorem Site.reports_callComplete (site : Site) (now : Nat) (procedure : String) (args : Value)
    (start finish : Instant) (steps : UInt64) (outcome : Outcome) :
    (site.emit now (.callComplete procedure args start steps
      (.ofOutcome start finish outcome))).Reports :=
  ⟨some outcome, .callComplete procedure args start finish steps outcome⟩

theorem Site.reports_command (site : Site) (now : Nat) (issued : Command) (step index : UInt64)
    (start : Instant) : (site.emit now (.command issued step index start)).Reports :=
  ⟨none, .command issued step index start⟩

theorem Site.reports_commandComplete (site : Site) (now : Nat) (issued : Command)
    (step index : UInt64) (start finish : Instant) (outcome : Outcome) :
    (site.emit now (.commandComplete issued step index start
      (.ofOutcome start finish outcome))).Reports :=
  ⟨some outcome, .commandComplete issued step index start finish outcome⟩

section Verified

/-- A run writes such records when it begins and when it settles. -/
theorem Performer.Concludes.reports {σ δ ε : Type} {performer : Performer σ δ ε} {site : Site}
    {procedure : String} {args : Value} {start : Nat} {finale : Finale ε}
    {invocation : Invocation δ ε}
    (concludes : performer.Concludes site procedure args start finale invocation) :
    ∀ emission ∈ invocation.closed, emission.Reports := by
  intro emission closed
  obtain ⟨outcome, rfl⟩ := concludes.exists_completion closed
  exact site.reports_callComplete ..

namespace Replay

theorem reports_of_mem_emissions {site : Site} {suspension : Suspension} {step now : Nat}
    {given : Outcome} {emission : Emission}
    (member : emission ∈ emissions site suspension step now given) : emission.Reports := by
  obtain ⟨command, index, outcome, paired⟩ := exists_pair_of_mem_emissions member
  simp only [pair, List.mem_cons, List.not_mem_nil, or_false] at paired
  rcases paired with rfl | rfl
  · exact site.reports_command ..
  · exact site.reports_commandComplete ..

theorem reports_of_perform (replay : Replay) (site : Site) (suspension : Suspension)
    (step now : Nat) :
    ∀ emission ∈ (replay.perform site suspension step now).evidence, emission.Reports := by
  intro emission member
  have performs := replay.performs site suspension step now
  generalize replay.perform site suspension step now = performed at performs member
  cases performs with
  | overruns => cases member
  | differs found => cases member
  | gives same calm => exact reports_of_mem_emissions member
  | @unwinds _ _ _ told others last _ same whole calm panics =>
      have upTo : told ++ [last] <+: told ++ last :: others := ⟨others, List.append_assoc ..⟩
      apply reports_of_mem_emissions
      rw [whole]
      exact upTo.subset member

end Replay

/-- **All records of a verification are such records.** -/
theorem Verification.reports_of_run (config : Config) (fresh : RunId) (procedure : Procedure)
    (script : Script) :
    ∀ emission ∈ (run config fresh procedure script).emissions, emission.Reports := by
  intro emission member
  unfold run at member
  cases checked : script.checked with
  | error violation =>
      rw [checked] at member
      cases member
  | ok terminal =>
      rw [checked] at member
      let place := site config fresh procedure script
      let replay := Replay.ofList script.expectations
      obtain ⟨⟨invocation, last⟩, ran⟩ := Option.isSome_iff_exists.mp
        (Replay.invoke_isSome place procedure script.args 0 replay)
      have whole : replay.run place procedure script.args = (invocation, last) :=
        Option.get_of_eq_some _ ran
      simp only [show (Replay.ofList script.expectations).run (site config fresh procedure script)
        procedure script.args = _ from whole, emissions, Option.map_some,
        Option.getD_some] at member
      obtain ⟨opened, ⟨_, _, stages, closed, _⟩ | ⟨finale, staged, concludes⟩⟩ :=
        Performer.invoke_cases ran
      all_goals
        rcases List.mem_cons.mp member with rfl | member
        · rw [opened]
          exact place.reports_call ..
      · rw [stages, closed] at member
        cases member
      · rcases List.mem_append.mp member with member | closed
        · obtain ⟨stage, among, member⟩ := List.mem_flatMap.mp member
          have course := Performer.course_of_start staged
          refine course.evidence (fun evidence => ∀ emission ∈ evidence, emission.Reports) ?_ stage
            among emission member
          intro own suspension step now performed performs
          cases performs
          exact Replay.reports_of_perform own place suspension step now
        · exact concludes.reports emission (Option.mem_toList.mp closed)

end Verified

section Live

variable {invocation : LiveInvocation} {outcome : Outcome}

theorem LiveInvocation.Completes.reports (completes : invocation.Completes outcome) :
    ∀ emission ∈ invocation.own, emission.Reports := by
  intro emission member
  rcases List.mem_cons.mp member with rfl | member
  · rw [completes.opened]
    exact invocation.site.reports_call ..
  rcases List.mem_append.mp member with member | closed
  · obtain ⟨stage, staged, member⟩ := List.mem_flatMap.mp member
    obtain ⟨dispatch, issued, member⟩ := List.mem_flatMap.mp member
    obtain ⟨n, staged⟩ := List.mem_iff_getElem?.mp staged
    obtain ⟨i, issued⟩ := List.mem_iff_getElem?.mp issued
    obtain ⟨given, answered⟩ := completes.proceeds.answered n stage staged
    obtain ⟨_, command, result, settles⟩ := answered.settles_of_getElem? issued
    rcases List.mem_cons.mp member with rfl | closed
    · rw [settles.opened]
      exact invocation.site.reports_command ..
    · rw [settles.closed] at closed
      obtain rfl := List.mem_singleton.mp closed
      exact invocation.site.reports_commandComplete ..
  · rw [completes.closed] at closed
    obtain rfl := List.mem_singleton.mp closed
    exact invocation.site.reports_callComplete ..

/-- **All records of a live run are such records**, if no hook panics in it. -/
theorem Host.reports_of_runs {host : Host} {config : Config} {fresh : RunId}
    {procedure : Procedure} {args : Value}
    (runs : host.Runs config fresh procedure args invocation)
    (calm : ∀ emission ∈ invocation.emissions, emission.panic? = none) :
    ∀ emission ∈ invocation.emissions, emission.Reports := by
  intro emission member
  obtain ⟨runtime, fuel, invoked⟩ := runs
  obtain ⟨_, tree⟩ := completes_of_invoke invoked (LiveInvocation.calm_of_emissions calm)
  obtain ⟨part, among, own⟩ := invocation.interleaves_own.exists_part_of_mem member
  obtain ⟨inner, inside, rfl⟩ := List.mem_map.mp among
  obtain ⟨⟨outcome, completes⟩, _⟩ := tree inner inside
  exact completes.reports emission own

end Live

end Resumable
