import Resumable.Command

/-! # The forms of a command

The flat form of a command is read in two ways and written in two ways. Both readers accept the
objects whose `type` is a text and no other values, they give the same command, and both writers
give back what was read. A command that was made by any operations, whatever keys they set, keeps
the type with which it began and no field called `type`, and all its forms give it back
(`Command.forms_agree`).
-/

namespace Resumable

open Json (Value Fields)

/-- A computation that may fail succeeds if each of its two parts does. -/
theorem bind_eq_ok_iff {ε α β : Type} {first : Except ε α} {next : α → Except ε β} {result : β} :
    first >>= next = .ok result ↔ ∃ value, first = .ok value ∧ next value = .ok result := by
  cases first with
  | ok value =>
      constructor
      · intro gives
        exact ⟨value, rfl, gives⟩
      · intro ⟨other, same, gives⟩
        cases same
        exact gives
  | error error =>
      constructor
      · exact nofun
      · intro ⟨value, same, _⟩
        cases same

namespace Command

section Read

variable {value : Value} {command : Command}

/-- A value is the form of a command if it is an object whose `type` is the command's, and the
other fields are its payload. -/
theorem ofJson_eq_ok_iff :
    ofJson value = .ok command ↔ ∃ fields, value = .object fields ∧
      fields.get? "type" = some (.string command.type) ∧
      ∀ key, command.get? key = if key = "type" then none else fields.get? key := by
  constructor
  · intro read
    cases value with
    | object fields =>
      simp only [ofJson] at read
      split at read
      · rename_i type tagged
        cases read
        exact ⟨fields, rfl, tagged, fun key => Fields.get?_erase "type" key fields⟩
      all_goals cases read
    | _ => cases read
  · intro written
    obtain ⟨fields, object, tagged, others⟩ := written
    subst object
    simp only [ofJson]
    split
    · rename_i type found
      obtain rfl := Value.string.inj (Option.some.inj (tagged.symm.trans found))
      refine congrArg Except.ok (Command.ext rfl (Fields.ext_get? _ _ ?_))
      intro key
      rw [Fields.get?_erase]
      exact (others key).symm
    · rename_i other notText found
      exact absurd (Option.some.inj (found.symm.trans tagged)) (notText _)
    · rename_i missing
      cases tagged.symm.trans missing

theorem encode_eq_ok_iff {form : Except Command.Refusal Value} :
    encode form = .ok command ↔ ∃ value, form = .ok value ∧ ofJson value = .ok command :=
  bind_eq_ok_iff

end Read

/-- `Made origin set command`: operations gave the command `origin` and then set the fields `set`
one after another, which gave `command`. -/
inductive Made : (origin : Command) → (set : List (String × Value)) → (command : Command) → Prop
  | new (type : String) : Made (ofType type) [] (ofType type)
  | encoded {form : Except Command.Refusal Value} {command : Command}
      (encodes : encode form = .ok command) : Made command [] command
  | read {value : Value} {command : Command} (reads : ofJson value = .ok command) :
      Made command [] command
  | deserialized {value : Value} {command : Command} (reads : ofWire? value = some command) :
      Made command [] command
  | withField {origin command : Command} {set : List (String × Value)}
      (made : Made origin set command) (key : String) (value : Value) :
      Made origin (set ++ [(key, value)]) (command.withField key value)

/-- What is known of a command that began as `origin` and in which the fields `set` were set. -/
structure Sound (origin : Command) (set : List (String × Value)) (command : Command) : Prop where
  /-- Setting fields does not change the type. -/
  type : command.type = origin.type
  untagged : "type" ∉ command.payload.keys
  /-- The flat form is that of the origin with all fields set but those called `type`. -/
  form : command.toJson = .object ((set.filter fun entry => entry.1 ≠ "type").foldl
    (fun fields entry => fields.insert entry.1 entry.2) origin.fields)
  wire : command.toWire = command.toJson
  reads : ofJson command.toJson = .ok command
  deserializes : ofWire? command.toJson = some command
  encodes : encode (.ok command.toJson) = .ok command

theorem type_withField (command : Command) (key : String) (value : Value) :
    (command.withField key value).type = command.type := by
  unfold withField
  split <;> rfl

theorem get?_withField (command : Command) {key : String} (untagged : key ≠ "type") (value : Value)
    (other : String) :
    (command.withField key value).get? other =
      if other = key then some value else command.get? other := by
  unfold withField
  rw [dif_neg untagged]
  exact Fields.get?_insert command.payload key value other

/-- Setting a field sets it in the flat form, unless it is called `type`. -/
theorem fields_withField (command : Command) (key : String) (value : Value) :
    (command.withField key value).fields =
      if key = "type" then command.fields else command.fields.insert key value := by
  unfold withField
  by_cases tag : key = "type"
  · rw [dif_pos tag, if_pos tag]
  · rw [dif_neg tag, if_neg tag]
    apply Fields.ext_get?
    intro other
    simp only [fields, Fields.get?_insert]
    by_cases same : other = key
    · simp only [same, tag, ↓reduceIte]
    · simp only [same, ↓reduceIte]

/-- The forms of any command give it back. -/
theorem sound_of_origin {origin command : Command} {set : List (String × Value)}
    (type : command.type = origin.type)
    (fields : command.fields = (set.filter fun entry => entry.1 ≠ "type").foldl
      (fun fields entry => fields.insert entry.1 entry.2) origin.fields) :
    Sound origin set command where
  type := type
  untagged := command.type_notMem_keys
  form := congrArg Value.object fields
  wire := command.toWire_eq_toJson
  reads := command.ofJson_toJson
  deserializes := ofWire?_eq_some_iff.mpr command.ofJson_toJson
  encodes := encode_eq_ok_iff.mpr ⟨_, rfl, command.ofJson_toJson⟩

/-- **What operations make is sound.** -/
theorem Made.sound {origin command : Command} {set : List (String × Value)}
    (made : Made origin set command) : Sound origin set command := by
  induction made with
  | new type => exact sound_of_origin rfl rfl
  | encoded encodes => exact sound_of_origin rfl rfl
  | read reads => exact sound_of_origin rfl rfl
  | deserialized reads => exact sound_of_origin rfl rfl
  | @withField origin command set made key value ih =>
    refine sound_of_origin ((command.type_withField key value).trans ih.type) ?_
    rw [command.fields_withField, List.filter_append, List.foldl_append,
      ← Value.object.inj ih.form]
    by_cases tag : key = "type"
    · simp [tag]
    · simp [tag]

/-- A value is read as some command exactly if it is an object whose `type` is a text. -/
theorem exists_ofJson_iff {value : Value} :
    (∃ command, ofJson value = .ok command) ↔
      ∃ fields type, value = .object fields ∧ fields.get? "type" = some (.string type) := by
  constructor
  · intro ⟨command, read⟩
    obtain ⟨fields, object, tagged, _⟩ := ofJson_eq_ok_iff.mp read
    exact ⟨fields, command.type, object, tagged⟩
  · intro ⟨fields, type, object, tagged⟩
    subst object
    refine ⟨⟨type, fields.erase "type", by rw [Fields.get?_erase, if_pos rfl]⟩, ?_⟩
    exact ofJson_eq_ok_iff.mpr ⟨fields, rfl, tagged, fun key => Fields.get?_erase "type" key fields⟩

/-- **All forms of commands agree.** Both readers accept the objects whose `type` is a text and
nothing else, they give the same command, with the object's type and its other fields, and both
writers give the object back. Whatever operations make a command, its type is the one with which
it began, no field of its payload is called `type`, its flat form has the fields that were set,
and its forms are equal and are read as the command. -/
theorem forms_agree :
    (∀ value : Value,
      ofWire? value = (ofJson value).toOption ∧
      ((∃ command, ofJson value = .ok command) ↔
        ∃ fields type, value = .object fields ∧ fields.get? "type" = some (.string type)) ∧
      ∀ command, ofJson value = .ok command →
        (∃ fields, value = .object fields ∧ fields.get? "type" = some (.string command.type) ∧
          ∀ key, command.get? key = if key = "type" then none else fields.get? key) ∧
        command.toJson = value ∧ command.toWire = value) ∧
    ∀ origin set command, Made origin set command → Sound origin set command := by
  refine ⟨?_, fun origin set command made => made.sound⟩
  intro value
  refine ⟨ofWire?_eq value, exists_ofJson_iff, ?_⟩
  intro command read
  have written := toJson_of_ofJson read
  exact ⟨ofJson_eq_ok_iff.mp read, written, command.toWire_eq_toJson.trans written⟩

/-- A command is read from its wire form, and then a field `type` and another field are set: only
the other one is. -/
theorem forms_agree_of_retyped :
    let value : Value := .object (Fields.ofList [("url", .string "/a"), ("type", .string "get")])
    let origin := (ofType "get").withField "url" (.string "/a")
    let set : List (String × Value) := [("type", .string "put"), ("url", .string "/b")]
    let command := (origin.withField "type" (.string "put")).withField "url" (.string "/b")
    ofJson value = .ok origin ∧ origin.toWire = value ∧
      Made origin set command ∧ Sound origin set command ∧ command.type = "get" ∧
      command.toJson =
        .object (Fields.ofList [("url", .string "/b"), ("type", .string "get")]) := by
  intro value origin set command
  obtain ⟨reading, making⟩ := forms_agree
  have read : ofJson value = .ok origin := by decide
  have made : Made origin set command :=
    ((Made.deserialized (ofWire?_eq_some_iff.mpr read)).withField "type" (.string "put")).withField
      "url" (.string "/b")
  obtain ⟨_, _, written⟩ := reading value
  obtain ⟨_, _, wire⟩ := written origin read
  have sound := making origin set command made
  refine ⟨read, wire, made, sound, sound.type, ?_⟩
  rw [sound.form]
  decide

end Command

end Resumable
