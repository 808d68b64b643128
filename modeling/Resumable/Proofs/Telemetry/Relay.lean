import Resumable.Proofs.Telemetry.RoundTrip

/-! # Records that a sink passes on

A sink that has read a record may write it out again for the next one. Whatever form the
record came in, the reader takes `null` in the place of a result for a missing result, so a
record that was read never has the result `null` (`Record.asRead_of_read`). Since nothing
else is lost on the wire, what was read once is read again as the same record, and is
written again in the same way (`Record.stable_of_read`).
-/

namespace Resumable

open Json (Value Fields)

/-- What is present is not `null`, and so present again. -/
theorem Json.Value.bind_present? (value : Value) :
    value.present?.bind Value.present? = value.present? := by
  cases value <;> rfl

/-- A completion that was read has no result `null`. -/
theorem Completion.asRead_of_ofParts? {finish latency success result failure : Value}
    {completion : Completion}
    (read : ofParts? finish latency success result failure = some completion) :
    completion.asRead = completion := by
  simp only [ofParts?, Option.bind_eq_bind, Option.bind_eq_some_iff, Option.pure_def,
    Option.some.injEq] at read
  obtain ⟨_, _, _, _, _, _, _, _, rfl⟩ := read
  rw [asRead, result.bind_present?]

/-- An event that was read has no result `null` either. -/
theorem Event.asRead_of_ofValues? {kind : EventKind} {values : List Value} {event : Event}
    (read : ofValues? kind values = some event) : event.asRead = event := by
  unfold ofValues? at read
  split at read
  all_goals
    simp only [Option.bind_eq_bind, Option.bind_eq_some_iff, Option.pure_def,
      Option.some.injEq, reduceCtorEq] at read
  · obtain ⟨_, _, _, _, rfl⟩ := read
    rfl
  · obtain ⟨_, _, _, _, _, _, completion, completed, rfl⟩ := read
    rw [asRead, Completion.asRead_of_ofParts? completed]
  · obtain ⟨_, _, _, _, _, _, _, _, rfl⟩ := read
    rfl
  · obtain ⟨_, _, _, _, _, _, _, _, completion, completed, rfl⟩ := read
    rw [asRead, Completion.asRead_of_ofParts? completed]

namespace Record

theorem asRead_of_read {value : Value} {record : Record} (read : ofJson? value = some record) :
    record.asRead = record := by
  cases value with
  | object fields =>
      simp only [ofJson?, Event.ofFields?, Option.bind_eq_bind, Option.bind_eq_some_iff,
        Option.pure_def, Option.some.injEq] at read
      obtain ⟨_, _, kind, _, _, _, _, _, event, ⟨_, _, found⟩, rfl⟩ := read
      rw [asRead, Event.asRead_of_ofValues? found]
  | _ => cases read

/-- The records that come of reading are those that their own wire form gives back. -/
theorem exists_read_iff {record : Record} :
    (∃ value, ofJson? value = some record) ↔ ofJson? record.toJson = some record := by
  constructor
  · rintro ⟨value, read⟩
    rw [ofJson?_toJson, asRead_of_read read]
  · intro read
    exact ⟨record.toJson, read⟩

/-- **A record that was read is stable**, in whatever form it came: written and read again it is
the same record, which is written in the same way again. -/
theorem stable_of_read {value : Value} {record : Record} (read : ofJson? value = some record) :
    ofJson? record.toJson = some record ∧
      (ofJson? record.toJson).map toJson = some record.toJson := by
  have again : ofJson? record.toJson = some record := exists_read_iff.mp ⟨value, read⟩
  refine ⟨again, ?_⟩
  rw [again, Option.map_some]

/-- A completion with its kind and its failure's kind by position, the trace and a frame as
arrays, no result, and a field that no record has. -/
theorem stable_of_read_positions :
    let value : Value := .object (Fields.ofList
      [("kind", .word 3), ("note", .bool true), ("step", .word 4), ("index", .word 0),
        ("start", .word 9), ("end", .word 7), ("latency", .word 5), ("success", .bool true),
        ("command", .object (Fields.ofList [("type", .string "get"), ("url", .string "/a")])),
        ("failure", .array [.word 0, .string "get"]),
        ("trace", .array [.null, .string "c1",
          .array [.array [.string "p", .null, .strings ["get"]]]])])
    let record : Record :=
      ⟨⟨none, ⟨"c1"⟩, [⟨"p", .null, ["get"]⟩]⟩,
        .commandComplete ((Command.ofType "get").withField "url" (.string "/a")) 4 0 ⟨9⟩
          ⟨⟨7⟩, ⟨5⟩, true, none, some (.noHandler "get")⟩⟩
    ofJson? value = some record ∧ record.toJson ≠ value ∧
      ofJson? record.toJson = some record ∧
      (ofJson? record.toJson).map toJson = some record.toJson := by
  intro value record
  have read : ofJson? value = some record := by decide +kernel
  have other : record.toJson ≠ value := by decide +kernel
  exact ⟨read, other, stable_of_read read⟩

end Record

end Resumable
