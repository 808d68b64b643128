import Resumable.Failure
import Resumable.Json.Difference

/-!
# Commands

A `Command` asks the outside world for one effect: a type and a payload of fields, none of which is
called `type`. As JSON it is flat, the type standing among the fields of the payload. The flat form
is written in two ways, as an object (`Command.toJson`) and entry by entry (`Command.entries`), and
read in two ways, with a reason for refusing (`Command.ofJson`) and from entries
(`Command.ofEntries?`).
-/

namespace Resumable

open Json (Value Fields)

/-- Why something is no command. -/
inductive Command.Refusal
  | notAnObject (value : Value)
  | missingType
  | invalidType (value : Value)
  /-- Some data has no JSON form. -/
  | serialization (reason : String)
deriving DecidableEq

namespace Command.Refusal

def message : Command.Refusal → String
  | notAnObject value => "command must be an object, got " ++ value.compact
  | missingType => "command is missing its `type` field"
  | invalidType value => "command `type` must be a string, got " ++ value.compact
  | serialization reason => "serialization error: " ++ reason

end Command.Refusal

/-- One effect that a computation asks for. -/
structure Command where
  /-- The type, which selects the handler. -/
  type : String
  payload : Fields none
  untagged : payload.get? "type" = none
deriving DecidableEq

namespace Command

def ofType (type : String) : Command :=
  ⟨type, .nil, rfl⟩

/-- The command with a payload field set; the type cannot be set in this way. -/
def withField (command : Command) (key : String) (value : Value) : Command :=
  if tag : key = "type" then command
  else
    { command with
      payload := command.payload.insert key value
      untagged := by rw [Fields.get?_insert, if_neg (Ne.symm tag), command.untagged] }

def get? (command : Command) (key : String) : Option Value :=
  command.payload.get? key

/-- The payload with the type put among its fields. -/
def fields (command : Command) : Fields none :=
  command.payload.insert "type" (.string command.type)

/-- The flat form of a command. -/
def toJson (command : Command) : Value :=
  .object command.fields

def text (command : Command) : String :=
  command.toJson.compact

def ofJson : Value → Except Command.Refusal Command
  | .object fields =>
    match fields.get? "type" with
    | some (.string type) =>
      .ok ⟨type, fields.erase "type", by rw [Fields.get?_erase, if_pos rfl]⟩
    | some other => .error (.invalidType other)
    | none => .error .missingType
  | other => .error (.notAnObject other)

/-- The entries of the flat form as they are written, the type first. -/
def entries (command : Command) : List (String × Value) :=
  ("type", .string command.type) :: command.payload.toList

/-- Reads the entries of a flat form in any order. -/
def ofEntries? (entries : List (String × Value)) : Option Command := do
  let tag ← entries.lookup "type"
  let type ← tag.string?
  pure
    { type
      payload := Fields.ofList (entries.filter fun entry => entry.1 ≠ "type")
      untagged := Fields.get?_ofList_eq_none fun entry member => by
        simpa using (List.mem_filter.mp member).2 }

/-- Reads the wire form of a command entry by entry. -/
def ofWire? : Value → Option Command
  | .object fields => ofEntries? fields.toList
  | _ => none

/-- The wire form of a command, assembled entry by entry. -/
def toWire (command : Command) : Value :=
  .object (Fields.ofList command.entries)

/-- The keys that tabular data may use for its rows. -/
inductive TableKey
  | text (key : String)
  | integer (key : Int)
  /-- A key made of several parts. -/
  | sequence

/-- The field name that a key of tabular data becomes. -/
def TableKey.name? : TableKey → Option String
  | text key => some key
  | integer key => some (toString key)
  | sequence => none

/-- The JSON form of tabular data, unless one of its keys cannot name a field. -/
def tableToJson (rows : List (TableKey × Value)) : Except Command.Refusal Value :=
  match rows.mapM fun row => row.1.name?.map fun name => (name, row.2) with
  | some entries => .ok (.object (Fields.ofList entries))
  | none => .error (.serialization "key must be a string")

/-- The command that typed data encodes, given the JSON form of the data or the reason why it has
none. -/
def encode (form : Except Command.Refusal Value) : Except Command.Refusal Command := do
  ofJson (← form)

def ofTable (rows : List (TableKey × Value)) : Except Command.Refusal Command :=
  encode (tableToJson rows)

/-- Equality of commands that keeps integers and binary64 numbers apart; zero has no sign. -/
def strictEq (left right : Command) : Bool :=
  left.type == right.type && Value.eqFieldsWith Json.Number.strictEq left.payload right.payload

theorem ext {left right : Command} (type : left.type = right.type)
    (payload : left.payload = right.payload) : left = right := by
  cases left
  cases right
  cases type
  cases payload
  rfl

theorem ofJson_toJson (command : Command) : ofJson command.toJson = .ok command := by
  have tag : command.fields.get? "type" = some (.string command.type) := by
    rw [fields, Fields.get?_insert, if_pos rfl]
  simp only [toJson, ofJson]
  split
  · rename_i type found
    rw [tag] at found
    obtain rfl := Value.string.inj (Option.some.inj found)
    congr
    exact Fields.erase_insert command.untagged
  · rename_i other notString found
    rw [tag] at found
    exact absurd (Option.some.inj found).symm (notString _)
  · rename_i found
    rw [tag] at found
    cases found

theorem toJson_of_ofJson {value : Value} {command : Command} (h : ofJson value = .ok command) :
    command.toJson = value := by
  cases value with
  | object fields =>
    simp only [ofJson] at h
    split at h
    · rename_i type found
      cases h
      exact congrArg Value.object (Fields.insert_erase found)
    all_goals cases h
  | _ => cases h

theorem type_notMem_keys (command : Command) : "type" ∉ command.payload.keys := by
  intro member
  obtain ⟨entry, among, named⟩ := List.mem_map.mp member
  have absent : command.payload.toList.lookup "type" = none := by
    rw [Fields.lookup_toList, command.untagged]
  exact bne_iff_ne.mp (List.lookup_eq_none_iff.mp absent entry among) named.symm

/-- Assembled entry by entry or not, the flat form of a command is the same. -/
theorem toWire_eq_toJson (command : Command) : command.toWire = command.toJson := by
  refine congrArg Value.object (Fields.ext_get? _ _ ?_)
  intro key
  have distinct : (command.entries.map Prod.fst).Nodup :=
    List.nodup_cons.mpr ⟨command.type_notMem_keys, (Fields.nodup_toList command.payload).1⟩
  rw [Fields.get?_ofList distinct, entries, fields, Fields.get?_insert, Fields.lookup_cons_eq_ite,
    Fields.lookup_toList]

/-- **Both readers give the same command**, or both none. -/
theorem ofWire?_eq (value : Value) : ofWire? value = (ofJson value).toOption := by
  cases value with
  | object fields =>
    have entries (type : String) (untagged) :
        (⟨type, Fields.ofList (fields.toList.filter fun entry => entry.1 ≠ "type"), untagged⟩ :
          Command) = ⟨type, fields.erase "type", by rw [Fields.get?_erase, if_pos rfl]⟩ :=
      Command.ext rfl (fields.ofList_filter_ne "type")
    rw [ofWire?, ofEntries?, Fields.lookup_toList, ofJson]
    cases fields.get? "type" with
    | none => rfl
    | some tag =>
      cases tag with
      | string type => exact congrArg some (entries type _)
      | _ => rfl
  | _ => rfl

theorem ofWire?_eq_some_iff {value : Value} {command : Command} :
    ofWire? value = some command ↔ ofJson value = .ok command := by
  rw [ofWire?_eq]
  cases ofJson value with
  | ok read => exact ⟨fun same => congrArg _ (Option.some.inj same), congrArg _⟩
  | error refusal => exact ⟨nofun, nofun⟩

theorem ofWire?_toWire (command : Command) : ofWire? command.toWire = some command := by
  rw [toWire_eq_toJson]
  exact ofWire?_eq_some_iff.mpr command.ofJson_toJson

end Command

end Resumable
