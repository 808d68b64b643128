import Resumable.Telemetry.Wire

/-! # What a sink reads of the records that a run writes

A reader gives every record back as it was written, but for one thing
(`Record.ofJson?_toJson`): a missing result and the result `null` are both written
as `null`, and the reader takes both for a missing result. A run writes a record
without a result only when something has not settled or has failed, so it is the
success with `null`, and nothing else, that a sink gets as something that no run
reports: a success without a result (`Record.read_back_iff`). The wire form has not
lost it, for the record of the success tells it from a failure
(`Record.eq_of_toJson_eq`).
-/

namespace Resumable

open Json (Value Fields)

namespace Completion

/-- A completion as a reader finds it. -/
def asRead (completion : Completion) : Completion :=
  { completion with result := completion.result.bind Value.present? }

theorem present?_getD (result : Option Value) :
    (result.getD .null).present? = result.bind Value.present? := by
  cases result <;> rfl

theorem failureOf?_getD (failure : Option Failure) :
    failureOf? ((failure.map Failure.toJson).getD .null) = some failure := by
  cases failure with
  | none => rfl
  | some failure => exact congrArg (Option.map some) failure.ofRecordJson?_toJson

theorem ofParts?_entries (completion : Completion) :
    ofParts? (.word completion.finish.micros) (.word completion.latency.micros)
        (.bool completion.success) (completion.result.getD .null)
        ((completion.failure.map Failure.toJson).getD .null) = some completion.asRead := by
  simp only [ofParts?, Value.word?_word, failureOf?_getD, present?_getD, Value.bool?,
    Option.bind_eq_bind, Option.bind_some, Option.pure_def]
  rfl

theorem present?_eq_self_iff (value : Value) : value.present? = some value ↔ value ≠ .null := by
  cases value <;> simp [Value.present?]

theorem asRead_ofOutcome_iff (start finish : Instant) (outcome : Outcome) :
    (ofOutcome start finish outcome).asRead = ofOutcome start finish outcome ↔
      outcome ≠ .ok .null := by
  cases outcome with
  | error failure => simp [ofOutcome, asRead]
  | ok value => simp [ofOutcome, asRead, present?_eq_self_iff]

/-- What something settled with can be told from its completion as it is read. -/
theorem ofOutcome_eq_of_asRead {start finish finish' : Instant} {outcome outcome' : Outcome}
    (same : (ofOutcome start finish outcome).asRead = (ofOutcome start finish' outcome').asRead) :
    ofOutcome start finish outcome = ofOutcome start finish' outcome' := by
  cases outcome with
  | error failure => cases outcome' <;> simp_all [ofOutcome, asRead]
  | ok value =>
      cases outcome' with
      | error failure => simp [ofOutcome, asRead] at same
      | ok value' =>
          have results : value.present? = value'.present? := congrArg Completion.result same
          obtain rfl : value = value' := by
            cases value <;> cases value' <;> simp_all [Value.present?]
          simp_all [ofOutcome, asRead]

end Completion

namespace Event

/-- An event as a reader finds it. -/
def asRead : Event → Event
  | callComplete procedure args start steps completion =>
    callComplete procedure args start steps completion.asRead
  | commandComplete issued step index start completion =>
    commandComplete issued step index start completion.asRead
  | event => event

/-- The values of the fields of an event, in the order of their names. -/
def values : Event → List Value
  | call procedure args start => [.string procedure, args, .word start.micros]
  | callComplete procedure args start steps completion =>
    [.string procedure, args, .word start.micros, .word completion.finish.micros,
      .word completion.latency.micros, .word steps, .bool completion.success,
      completion.result.getD .null, (completion.failure.map Failure.toJson).getD .null]
  | command issued step index start =>
    [issued.toWire, .word step, .word index, .word start.micros]
  | commandComplete issued step index start completion =>
    [issued.toWire, .word step, .word index, .word start.micros, .word completion.finish.micros,
      .word completion.latency.micros, .bool completion.success, completion.result.getD .null,
      (completion.failure.map Failure.toJson).getD .null]

theorem ofValues?_values (event : Event) :
    ofValues? event.kind event.values = some event.asRead := by
  cases event <;>
    simp only [kind, values, ofValues?, Value.string?, Value.word?_word, Command.ofWire?_toWire,
      Completion.ofParts?_entries, asRead, Option.bind_eq_bind, Option.bind_some, Option.pure_def]

theorem nodup_names (place : Value) (event : Event) :
    ((("trace", place) :: event.entries).map Prod.fst).Nodup := by
  cases event <;> simp [entries, details, Completion.entries]

/-- The events that a run makes, each with the outcome that it reports, if any. -/
inductive Reports : Event → Option Outcome → Prop
  | call (procedure : String) (args : Value) (start : Instant) :
      Reports (.call procedure args start) none
  | callComplete (procedure : String) (args : Value) (start finish : Instant) (steps : UInt64)
      (outcome : Outcome) :
      Reports (.callComplete procedure args start steps (.ofOutcome start finish outcome))
        (some outcome)
  | command (issued : Command) (step index : UInt64) (start : Instant) :
      Reports (.command issued step index start) none
  | commandComplete (issued : Command) (step index : UInt64) (start finish : Instant)
      (outcome : Outcome) :
      Reports (.commandComplete issued step index start (.ofOutcome start finish outcome))
        (some outcome)

theorem Reports.asRead_iff {event : Event} {settled : Option Outcome}
    (reports : event.Reports settled) : event.asRead = event ↔ settled ≠ some (.ok .null) := by
  cases reports <;> simp [asRead, Completion.asRead_ofOutcome_iff]

theorem Reports.eq_of_asRead {left right : Event} {settled settled' : Option Outcome}
    (reports : left.Reports settled) (reports' : right.Reports settled')
    (same : left.asRead = right.asRead) : left = right := by
  cases reports with
  | call => cases reports' <;> cases same; rfl
  | command => cases reports' <;> cases same; rfl
  | callComplete =>
      cases reports' with
      | callComplete =>
          obtain ⟨rfl, rfl, rfl, rfl, completions⟩ := Event.callComplete.inj same
          rw [Completion.ofOutcome_eq_of_asRead completions]
      | _ => cases same
  | commandComplete =>
      cases reports' with
      | commandComplete =>
          obtain ⟨rfl, rfl, rfl, rfl, completions⟩ := Event.commandComplete.inj same
          rw [Completion.ofOutcome_eq_of_asRead completions]
      | _ => cases same

end Event

namespace Record

/-- A record as a reader finds it. -/
def asRead (record : Record) : Record :=
  ⟨record.trace, record.event.asRead⟩

theorem get?_fields (record : Record) (name : String) :
    record.fields.get? name =
      (("trace", record.trace.toJson) :: record.event.entries).lookup name :=
  Fields.get?_ofList (Event.nodup_names _ _) name

theorem mapM_valueOf? (record : Record) :
    (Event.fieldNames record.kind).mapM (Event.valueOf? record.fields) =
      some record.event.values := by
  obtain ⟨place, event⟩ := record
  cases event <;>
    simp [kind, Event.kind, Event.fieldNames, Event.valueOf?, get?_fields, Event.entries,
      Event.details, Completion.entries, Event.values, List.lookup_cons]

theorem ofFields?_fields (record : Record) :
    Event.ofFields? record.kind record.fields = some record.event.asRead := by
  rw [Event.ofFields?, mapM_valueOf?]
  exact record.event.ofValues?_values

/-- **Every record can be read**, and a result of `null` is all that the reader does not find. -/
theorem ofJson?_toJson (record : Record) : ofJson? record.toJson = some record.asRead := by
  have named : record.fields.get? "kind" = some (.string record.kind.name) := by
    rw [get?_fields]
    rfl
  have placed : record.fields.get? "trace" = some record.trace.toJson := by
    rw [get?_fields]
    rfl
  have known : Event.kindOf? (.string record.kind.name) = some record.kind :=
    record.kind.ofName?_name
  simp only [toJson, ofJson?, named, placed, known, ofFields?_fields, Trace.ofJson?_toJson,
    Option.bind_eq_bind, Option.bind_some, Option.pure_def]
  rfl

/-- Records of a run with the same wire form are the same. -/
theorem eq_of_toJson_eq {left right : Record} {settled settled' : Option Outcome}
    (reports : left.event.Reports settled) (reports' : right.event.Reports settled')
    (same : left.toJson = right.toJson) : left = right := by
  have read : left.asRead = right.asRead := by
    apply Option.some.inj
    rw [← ofJson?_toJson, ← ofJson?_toJson, same]
  obtain ⟨places, events⟩ := Record.mk.inj read
  have event : left.event = right.event := reports.eq_of_asRead reports' events
  cases left
  cases right
  exact congr (congrArg Record.mk places) event

theorem ofJson?_eq_self_iff {record : Record} {settled : Option Outcome}
    (reports : record.event.Reports settled) :
    ofJson? record.toJson = some record ↔ settled ≠ some (.ok .null) := by
  rw [ofJson?_toJson, Option.some.injEq, ← reports.asRead_iff]
  constructor
  · exact congrArg Record.event
  · intro same
    rw [asRead, same]

/-- **A record of a run is read back as it was written unless it reports the value `null`.** A
success with `null` is read as a success without a result. -/
theorem read_back_iff (trace : Trace) {event : Event} {settled : Option Outcome}
    (reports : event.Reports settled) :
    ofJson? (toJson ⟨trace, event⟩) = some ⟨trace, event.asRead⟩ ∧
      (ofJson? (toJson ⟨trace, event⟩) = some ⟨trace, event⟩ ↔ settled ≠ some (.ok .null)) :=
  ⟨ofJson?_toJson _, ofJson?_eq_self_iff reports⟩

/-- A command that has no handler: the record of its failure is read back. -/
theorem read_back_of_lookup :
    let trace : Trace := ⟨some "swapi", ⟨"cid-1"⟩, [⟨"peopleNames", .array [], ["httpGet"]⟩]⟩
    let issued : Command := (Command.ofType "httpGet").withField "url" (.string "/people")
    let failure : Failure := .noHandler "httpGet"
    let event : Event := .commandComplete issued 0 0 ⟨10⟩ (.ofOutcome ⟨10⟩ ⟨25⟩ (.error failure))
    event.Reports (some (.error failure)) ∧
      ofJson? (toJson ⟨trace, event⟩) = some ⟨trace, event⟩ := by
  intro trace issued failure event
  have reports : event.Reports (some (.error failure)) := .commandComplete ..
  exact ⟨reports, (read_back_iff trace reports).2.mpr nofun⟩

/-- A command that succeeds with `null`: the record of its success is read as one without a
result. -/
theorem not_read_back_of_null :
    let trace : Trace := ⟨none, ⟨"c1"⟩, [⟨"p", .null, ["httpGet"]⟩]⟩
    let issued : Command := (Command.ofType "httpGet").withField "url" (.string "/a")
    let event : Event := .commandComplete issued 1 2 ⟨7⟩ (.ofOutcome ⟨7⟩ ⟨9⟩ (.ok .null))
    event.Reports (some (.ok .null)) ∧
      ofJson? (toJson ⟨trace, event⟩) =
        some ⟨trace, .commandComplete issued 1 2 ⟨7⟩ ⟨⟨9⟩, ⟨2⟩, true, none, none⟩⟩ ∧
      ofJson? (toJson ⟨trace, event⟩) ≠ some ⟨trace, event⟩ := by
  intro trace issued event
  have reports : event.Reports (some (.ok .null)) := .commandComplete ..
  have read : ofJson? (toJson ⟨trace, event⟩) =
      some ⟨trace, .commandComplete issued 1 2 ⟨7⟩ ⟨⟨9⟩, ⟨2⟩, true, none, none⟩⟩ :=
    ofJson?_toJson _
  refine ⟨reports, read, ?_⟩
  rw [read]
  intro same
  have results : none = some Value.null :=
    congrArg (fun record => record.event.completion?.bind Completion.result)
      (Option.some.inj same)
  cases results

end Record

end Resumable
