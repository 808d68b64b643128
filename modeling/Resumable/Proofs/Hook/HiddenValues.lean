import Resumable.Command.Effect
import Resumable.Hook.Log
import Resumable.Proofs.Command.Forms
import Resumable.Proofs.Text.Quoted

/-! # What a log shows while values are hidden

Two records resemble each other if they agree in all that is no value: the run and the depth, the
names and positions, how long something took and whether it succeeded (`Record.Resembles`). A hook
that hides values writes the same about them but for one field, which names the failure of what has
failed (`LogHook.shows_failures_alone`), so two failures with one cause and different data are told
apart by the log (`LogHook.shows_failure_of_malformed`).
-/

namespace Resumable

open Json (Value)

/-- Two completions took equally long, and both succeeded or both failed. -/
structure Completion.Resembles (left right : Completion) : Prop where
  latency : left.latency = right.latency
  success : left.success = right.success

/-- Two events of one kind agree in all that is no value: arguments, payloads, results and failures
may differ, and so may the times. -/
inductive Event.Resembles : Event → Event → Prop
  | call (procedure : String) {args args' : Value} {start start' : Instant} :
      Event.Resembles (.call procedure args start) (.call procedure args' start')
  | callComplete (procedure : String) {args args' : Value} {start start' : Instant}
      (steps : UInt64) {completion completion' : Completion}
      (settles : completion.Resembles completion') :
      Event.Resembles (.callComplete procedure args start steps completion)
        (.callComplete procedure args' start' steps completion')
  | command {command command' : Command} (type : command.type = command'.type)
      (step index : UInt64) {start start' : Instant} :
      Event.Resembles (.command command step index start) (.command command' step index start')
  | commandComplete {command command' : Command} (type : command.type = command'.type)
      (step index : UInt64) {start start' : Instant} {completion completion' : Completion}
      (settles : completion.Resembles completion') :
      Event.Resembles (.commandComplete command step index start completion)
        (.commandComplete command' step index start' completion')

/-- Two records agree in all that is no value. -/
structure Record.Resembles (record other : Record) : Prop where
  run : record.trace.run = other.trace.run
  depth : record.trace.depth = other.trace.depth
  event : record.event.Resembles other.event

/-- The failure of what a record reports, if that has settled. -/
def Event.failure? (event : Event) : Option Failure :=
  event.completion?.bind Completion.failure

namespace LogEntry

/-- The entry without the field that names a failure. -/
def withoutFailure (entry : LogEntry) : LogEntry :=
  { entry with fields := entry.fields.filter fun field => field.1 ≠ "failure" }

/-- Labels differ before the bracket that follows them. -/
theorem label_append_inj {left right : Failure.Kind} {rest others : List Char}
    (same : left.label.toList ++ ("(".toList ++ rest) =
      right.label.toList ++ ("(".toList ++ others)) :
    left = right ∧ rest = others := by
  cases left <;> cases right <;> simp_all [Failure.Kind.label]

/-- The text of a failure has its kind and its message. -/
theorem failureText_inj {left right : Option Failure} :
    failureText left = failureText right ↔ left = right := by
  constructor
  · intro same
    have letters := congrArg String.toList same
    cases left with
    | none =>
        cases right with
        | none => rfl
        | some other => simp [failureText] at letters
    | some failure =>
        cases right with
        | none => simp [failureText] at letters
        | some other =>
            simp only [failureText, String.toList_append, List.append_assoc] at letters
            obtain ⟨kind, message⟩ := failure
            obtain ⟨kind', message'⟩ := other
            obtain ⟨rfl, quoted⟩ := label_append_inj (List.append_cancel_left letters)
            have visible : Text.visible message = Text.visible message' :=
              String.toList_inj.mp (List.append_cancel_right quoted)
            rw [Text.visible_inj.mp visible]
  · exact congrArg _

/-- The entry with what is written about a completion after the other fields. -/
def closing (fields : List (String × Value))
    (written : LogLevel × String × List (String × Value)) : LogEntry :=
  ⟨written.1, "stepfx::telemetry", written.2.1, fields ++ written.2.2⟩

theorem closing_inj {fields : List (String × Value)}
    {left right : LogLevel × String × List (String × Value)} :
    closing fields left = closing fields right ↔ left = right := by
  constructor
  · intro same
    obtain ⟨level, _, message, written⟩ := LogEntry.mk.inj same
    exact Prod.ext level (Prod.ext message (List.append_cancel_left written))
  · exact congrArg _

section Settled

variable {completion other : Completion}

/-- While values are hidden, what is written about completions that resemble each other differs by
their failures. -/
theorem settled_eq_iff (resembles : completion.Resembles other) (subject : String) :
    settled false subject completion = settled false subject other ↔
      (completion.success = false → completion.failure = other.failure) := by
  unfold settled
  rw [← resembles.success]
  cases completion.success with
  | true => simp [shown]
  | false => simp [failureText_inj]

/-- Apart from the failures, it does not differ. -/
theorem closing_withoutFailure (resembles : completion.Resembles other) (subject : String)
    (fields : List (String × Value)) :
    (closing fields (settled false subject completion)).withoutFailure =
      (closing fields (settled false subject other)).withoutFailure := by
  unfold settled
  rw [← resembles.success]
  cases completion.success with
  | true => rfl
  | false => simp [closing, withoutFailure]

end Settled

section Record

variable {record other : Record}

/-- The fields that are written about a record whatever it is that has settled. -/
theorem ofRecord_callComplete (trace : Trace) (procedure : String) (args : Value) (start : Instant)
    (steps : UInt64) (completion : Completion) :
    ofRecord false ⟨trace, .callComplete procedure args start steps completion⟩ =
      closing
        [("cid", .string trace.run.text), ("depth", .count trace.depth),
          ("procedure", .string procedure), ("latency_us", .word completion.latency.micros),
          ("steps", .word steps)] (settled false "call" completion) := rfl

theorem ofRecord_commandComplete (trace : Trace) (command : Command) (step index : UInt64)
    (start : Instant) (completion : Completion) :
    ofRecord false ⟨trace, .commandComplete command step index start completion⟩ =
      closing
        [("cid", .string trace.run.text), ("depth", .count trace.depth),
          ("kind", .string command.type), ("step", .word step), ("index", .word index),
          ("latency_us", .word completion.latency.micros)]
        (settled false "command" completion) := rfl

/-- **The log shows failures, and no other value**, while values are hidden. -/
theorem ofRecord_hidden (resembles : record.Resembles other) :
    (ofRecord false record).withoutFailure = (ofRecord false other).withoutFailure ∧
      (ofRecord false record = ofRecord false other ↔
        (record.event.success? = some false → record.event.failure? = other.event.failure?)) := by
  obtain ⟨trace, event⟩ := record
  obtain ⟨trace', event'⟩ := other
  obtain ⟨run, depth, event⟩ := resembles
  simp only at run depth event
  cases event with
  | call procedure =>
      simp [ofRecord, shown, run, depth, Event.success?, Event.completion?]
  | command type step index =>
      simp [ofRecord, shown, run, depth, type, Event.success?, Event.completion?]
  | callComplete procedure steps settles =>
      simp only [ofRecord_callComplete, run, depth, settles.latency, closing_inj,
        settled_eq_iff settles, Event.success?, Event.failure?, Event.completion?]
      exact ⟨closing_withoutFailure settles _ _, by simp⟩
  | commandComplete type step index settles =>
      simp only [ofRecord_commandComplete, run, depth, type, settles.latency, closing_inj,
        settled_eq_iff settles, Event.success?, Event.failure?, Event.completion?]
      exact ⟨closing_withoutFailure settles _ _, by simp⟩

end Record

end LogEntry

namespace LogHook

theorem entries_inj {hook : LogHook} {record other : Record} :
    hook.entries record = hook.entries other ↔
      LogEntry.ofRecord hook.showValues record = LogEntry.ofRecord hook.showValues other := by
  simp only [entries, List.cons.injEq, and_true]

/-- **A hook that hides values shows failures, and no other value.** Its entries about two records
that resemble each other agree in everything but the field that names a failure. They are the same
exactly if the records do not report failures, or report the same one. -/
theorem shows_failures_alone {hook : LogHook} (hidden : hook.showValues = false)
    {record other : Record} (resembles : record.Resembles other) :
    (hook.entries record).map LogEntry.withoutFailure =
        (hook.entries other).map LogEntry.withoutFailure ∧
      (hook.entries record = hook.entries other ↔
        (record.event.success? = some false →
          record.event.failure? = other.event.failure?)) := by
  obtain ⟨alike, same⟩ := LogEntry.ofRecord_hidden resembles
  rw [entries_inj, hidden]
  refine ⟨?_, same⟩
  rw [entries, entries, hidden, List.map_singleton, List.map_singleton, alike]

/-- Two commands of one type fail for the same reason: the log does not tell their payloads. -/
theorem shows_failures_alone_of_unhandled :
    let trace : Trace := ⟨some "n", ⟨"c"⟩, [⟨"p", .null, []⟩]⟩
    let reported (url : String) : Record :=
      ⟨trace, .commandComplete ((Command.ofType "get").withField "url" (.string url)) 0 0 ⟨3⟩
        (.ofOutcome ⟨3⟩ ⟨3⟩ (.error (.noHandler "get")))⟩
    let hook : LogHook := ⟨false⟩
    hook.showValues = false ∧ (reported "/a").Resembles (reported "/b") ∧
      reported "/a" ≠ reported "/b" ∧
      hook.entries (reported "/a") = hook.entries (reported "/b") := by
  intro trace reported hook
  have resembles : (reported "/a").Resembles (reported "/b") :=
    ⟨rfl, rfl, .commandComplete (by rfl) 0 0 ⟨by rfl, by rfl⟩⟩
  exact ⟨rfl, resembles, by decide, (shows_failures_alone rfl resembles).2.mpr fun _ => rfl⟩

/-- Two commands to sleep cannot be read, as each has a text for its time: the log tells the
texts. -/
theorem shows_failure_of_malformed :
    let trace : Trace := ⟨none, ⟨"c"⟩, [⟨"p", .null, ["sleep"]⟩]⟩
    let command (time : String) : Command := (Command.ofType "sleep").withField "ms" (.string time)
    let failure (time : String) : Failure :=
      ⟨.handler, "malformed `sleep` command: " ++
        (Effect.DecodeError.invalidField (.string time) .word).message⟩
    let reported (time : String) : Record :=
      ⟨trace, .commandComplete (command time) 0 0 ⟨7⟩ (.ofOutcome ⟨7⟩ ⟨9⟩ (.error (failure time)))⟩
    let hook : LogHook := ⟨false⟩
    (∀ time, Effect.decode (command time) = .error (failure time)) ∧
      (reported "secret").Resembles (reported "other") ∧
      hook.entries (reported "secret") ≠ hook.entries (reported "other") := by
  intro trace command failure reported hook
  have type (time : String) : (command time).type = "sleep" := Command.type_withField ..
  have settles (left right : Failure) :
      (Completion.ofOutcome ⟨7⟩ ⟨9⟩ (.error left)).Resembles (.ofOutcome ⟨7⟩ ⟨9⟩ (.error right)) :=
    ⟨rfl, rfl⟩
  have resembles : (reported "secret").Resembles (reported "other") :=
    ⟨rfl, rfl, .commandComplete ((type _).trans (type _).symm) 0 0 (settles _ _)⟩
  refine ⟨fun time => rfl, resembles, ?_⟩
  rw [Ne, entries_inj, (LogEntry.ofRecord_hidden resembles).2]
  intro shown
  have failures : some (failure "secret") = some (failure "other") := shown rfl
  have texts : (failure "secret").message = (failure "other").message :=
    congrArg Failure.message (Option.some.inj failures)
  have written (time : String) : (failure time).message =
      "malformed `sleep` command: " ++ ("invalid type: " ++ ("string " ++ Text.visible time) ++
        ", expected " ++ "u64") := rfl
  rw [written, written] at texts
  simp only [String.append_assoc, String.append_right_inj, String.append_left_inj,
    Text.visible_inj] at texts
  revert texts
  decide

end LogHook

end Resumable
