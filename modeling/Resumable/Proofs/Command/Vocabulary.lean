import Resumable.Command.Effect
import Resumable.Proofs.Command.Forms

/-! # The vocabulary of effects

An effect has a type and fields of its own, and its flat form holds both
(`Effect.toJson`). What may be read back is described by a table of types, each with the fields
that it declares and what they may hold (`Effect.vocabulary`). A command is read as an effect
exactly if it has the type and the fields of that effect (`Effect.ofCommand_eq_ok_iff`). So the
commands that can be read are those that the table describes, other fields are ignored and do not
come back, and every other command is a failure of the handler (`Effect.decode_by_vocabulary`).
-/

namespace Resumable

open Json (Value Number Fields)

namespace Effect

/-- What a field of an effect may hold. -/
inductive Shape
  | text
  | word
  | any

def Shape.Admits : Shape → Value → Prop
  | text, value => ∃ text, value = .string text
  | word, value => ∃ integer inRange,
      value = .number (.int integer inRange) ∧ 0 ≤ integer ∧ integer < 18446744073709551616
  | any, _ => True

/-- The types of effects, each with the fields that it declares. -/
def vocabulary : List (String × List (String × Shape)) :=
  [("httpGet", [("url", .text)]),
    ("httpPost", [("url", .text), ("body", .any)]),
    ("sleep", [("ms", .word)]),
    ("ping", [])]

def type : Effect → String
  | httpGet _ => "httpGet"
  | httpPost _ _ => "httpPost"
  | sleep _ => "sleep"
  | ping => "ping"

def fields : Effect → List (String × Value)
  | httpGet url => [("url", .string url)]
  | httpPost url body => [("url", .string url), ("body", body)]
  | sleep ms => [("ms", .word ms)]
  | ping => []

/-- The flat form of an effect: its type stands among its fields. -/
def toJson (effect : Effect) : Value :=
  .object (Fields.ofList (("type", .string effect.type) :: effect.fields))

/-- The command that an effect encodes, by way of its flat form. -/
def encode (effect : Effect) : Except Command.Refusal Command :=
  Command.encode (.ok effect.toJson)

end Effect

/-- The command has every field that is declared, and each holds what it may. -/
def Command.Has (command : Command) (declared : List (String × Effect.Shape)) : Prop :=
  ∀ field ∈ declared, ∃ value, command.get? field.1 = some value ∧ field.2.Admits value

/-- The vocabulary describes the command. -/
def Command.Conforms (command : Command) : Prop :=
  ∃ declared, Effect.vocabulary.lookup command.type = some declared ∧ command.Has declared

namespace Effect

section Write

variable (effect : Effect)

theorem nodup_fields : ("type" :: effect.fields.map Prod.fst).Nodup := by
  cases effect with
  | _ => simp [fields]

theorem type_toCommand : effect.toCommand.type = effect.type := by
  cases effect with
  | _ => simp only [toCommand, Command.type_withField, Command.ofType, type]

theorem get?_toCommand (key : String) : effect.toCommand.get? key = effect.fields.lookup key := by
  have nothing (type : String) : (Command.ofType type).get? key = none := rfl
  cases effect with
  | httpPost url body =>
      by_cases first : key = "url"
      · simp [toCommand, fields, Command.get?_withField, first]
      · simp [toCommand, fields, Command.get?_withField, Fields.lookup_cons_eq_ite, first, nothing]
  | _ => simp [toCommand, fields, Command.get?_withField, Fields.lookup_cons_eq_ite, nothing]

theorem lookup_of_mem {field : String × Value} (member : field ∈ effect.fields) :
    effect.fields.lookup field.1 = some field.2 := by
  cases effect with
  | _ => revert field; simp [fields, Fields.lookup_cons_eq_ite]

/-- The command is what its flat form is read as. -/
theorem encode_eq : effect.encode = .ok effect.toCommand := by
  have distinct : ((("type", .string effect.type) :: effect.fields).map Prod.fst).Nodup :=
    effect.nodup_fields
  refine Command.encode_eq_ok_iff.mpr ⟨_, rfl, Command.ofJson_eq_ok_iff.mpr ⟨_, rfl, ?_, ?_⟩⟩
  · rw [Fields.get?_ofList distinct, type_toCommand, Fields.lookup_cons_eq_ite, if_pos rfl]
  · intro key
    rw [Fields.get?_ofList distinct, get?_toCommand, Fields.lookup_cons_eq_ite]
    by_cases tag : key = "type"
    · rw [if_pos tag, ← get?_toCommand, tag]
      exact effect.toCommand.untagged
    · rw [if_neg tag, if_neg tag]

end Write

section Read

variable {command : Command} {effect : Effect} {name : String}

theorem anyField_eq_ok_iff {value : Value} :
    anyField command name = .ok value ↔ command.get? name = some value := by
  unfold anyField
  cases command.get? name with
  | none => simp
  | some found => simp

theorem textField_eq_ok_iff {text : String} :
    textField command name = .ok text ↔ command.get? name = some (.string text) := by
  rw [textField, bind_eq_ok_iff]
  simp only [anyField_eq_ok_iff]
  constructor
  · intro ⟨value, found, reads⟩
    cases value with
    | string other =>
        cases reads
        exact found
    | _ => cases reads
  · intro found
    exact ⟨_, found, rfl⟩

theorem word?_eq_some_iff {value : Value} {word : UInt64} :
    value.word? = some word ↔ value = .word word := by
  constructor
  · intro reads
    cases value with
    | number number => exact congrArg Value.number (Number.ofWord_of_toWord? reads)
    | _ => cases reads
  · intro same
    rw [same, Value.word?_word]

theorem wordField_eq_ok_iff {word : UInt64} :
    wordField command name = .ok word ↔ command.get? name = some (.word word) := by
  rw [wordField, bind_eq_ok_iff]
  simp only [anyField_eq_ok_iff]
  constructor
  · intro ⟨value, found, reads⟩
    cases read : value.word? with
    | none =>
        rw [read] at reads
        cases reads
    | some other =>
        rw [read] at reads
        cases reads
        rw [found, word?_eq_some_iff.mp read]
  · intro found
    refine ⟨_, found, ?_⟩
    rw [Value.word?_word]

/-- **A command is read as an effect** exactly if it has the effect's type and fields. -/
theorem ofCommand_eq_ok_iff : ofCommand command = .ok effect ↔
    command.type = effect.type ∧ ∀ field ∈ effect.fields, command.get? field.1 = some field.2 := by
  constructor
  · intro read
    unfold ofCommand at read
    split at read
    · rename_i typed
      obtain ⟨url, found, made⟩ := bind_eq_ok_iff.mp read
      cases made
      simpa [fields, type, typed] using textField_eq_ok_iff.mp found
    · rename_i typed
      obtain ⟨url, found, read⟩ := bind_eq_ok_iff.mp read
      obtain ⟨body, present, made⟩ := bind_eq_ok_iff.mp read
      cases made
      simpa [fields, type, typed] using
        ⟨textField_eq_ok_iff.mp found, anyField_eq_ok_iff.mp present⟩
    · rename_i typed
      obtain ⟨ms, found, made⟩ := bind_eq_ok_iff.mp read
      cases made
      simpa [fields, type, typed] using wordField_eq_ok_iff.mp found
    · rename_i typed
      cases read
      simpa [fields, type] using typed
    · cases read
  · intro ⟨typed, found⟩
    unfold ofCommand
    rw [typed]
    cases effect with
    | httpGet url =>
        simp only [fields, List.mem_singleton, forall_eq] at found
        exact bind_eq_ok_iff.mpr ⟨url, textField_eq_ok_iff.mpr found, rfl⟩
    | httpPost url body =>
        simp only [fields, List.mem_cons, List.not_mem_nil, or_false, forall_eq_or_imp,
          forall_eq] at found
        obtain ⟨found, present⟩ := found
        exact bind_eq_ok_iff.mpr ⟨url, textField_eq_ok_iff.mpr found,
          bind_eq_ok_iff.mpr ⟨body, anyField_eq_ok_iff.mpr present, rfl⟩⟩
    | sleep ms =>
        simp only [fields, List.mem_singleton, forall_eq] at found
        exact bind_eq_ok_iff.mpr ⟨ms, wordField_eq_ok_iff.mpr found, rfl⟩
    | ping => rfl

/-- What an effect encodes is read as the effect. -/
theorem ofCommand_toCommand (effect : Effect) : ofCommand effect.toCommand = .ok effect := by
  refine ofCommand_eq_ok_iff.mpr ⟨effect.type_toCommand, ?_⟩
  intro field member
  rw [get?_toCommand, effect.lookup_of_mem member]

/-- The table has an entry for every effect, and the effect's fields are as it declares them. -/
theorem exists_declared (effect : Effect) :
    ∃ declared, vocabulary.lookup effect.type = some declared ∧
      effect.fields.map Prod.fst = declared.map Prod.fst ∧
      ∀ field ∈ declared, ∃ value, (field.1, value) ∈ effect.fields ∧ field.2.Admits value := by
  cases effect with
  | httpGet url => exact ⟨_, rfl, rfl, by simp [fields, Shape.Admits]⟩
  | httpPost url body => exact ⟨_, rfl, rfl, by simp [fields, Shape.Admits]⟩
  | sleep ms =>
      have range : (0 : Int) ≤ ms.toNat ∧ (ms.toNat : Int) < 18446744073709551616 := by
        have := ms.toNat_lt
        omega
      refine ⟨_, rfl, rfl, ?_⟩
      intro field member
      obtain rfl := List.mem_singleton.mp member
      exact ⟨_, List.mem_singleton.mpr rfl, _, _, rfl, range⟩
  | ping => exact ⟨_, rfl, rfl, List.forall_mem_nil _⟩

/-- A command that the table describes has the type and the fields of some effect. -/
theorem exists_of_conforms (conforms : command.Conforms) :
    ∃ effect : Effect, command.type = effect.type ∧
      ∀ field ∈ effect.fields, command.get? field.1 = some field.2 := by
  obtain ⟨declared, listed, has⟩ := conforms
  obtain ⟨before, after, parted, _⟩ := List.lookup_eq_some_iff.mp listed
  have member : (command.type, declared) ∈ vocabulary := by
    rw [parted]
    exact List.mem_append_right _ List.mem_cons_self
  simp only [vocabulary, List.mem_cons, List.not_mem_nil, or_false, Prod.mk.injEq] at member
  obtain ⟨typed, rfl⟩ | ⟨typed, rfl⟩ | ⟨typed, rfl⟩ | ⟨typed, rfl⟩ := member
  · obtain ⟨_, found, url, rfl⟩ := has ("url", .text) List.mem_cons_self
    exact ⟨httpGet url, typed, by simpa [fields] using found⟩
  · obtain ⟨_, found, url, rfl⟩ := has ("url", .text) List.mem_cons_self
    obtain ⟨body, present, _⟩ := has ("body", .any) (List.mem_cons_of_mem _ List.mem_cons_self)
    exact ⟨httpPost url body, typed, by simpa [fields] using ⟨found, present⟩⟩
  · obtain ⟨_, found, integer, inRange, rfl, nonneg, _⟩ := has ("ms", .word) List.mem_cons_self
    have reads : (Value.number (.int integer inRange)).word? =
        some (UInt64.ofNat integer.toNat) := if_pos nonneg
    rw [word?_eq_some_iff.mp reads] at found
    exact ⟨sleep _, typed, by simpa [fields] using found⟩
  · exact ⟨ping, typed, List.forall_mem_nil _⟩

/-- What comes back of a command that has the fields of an effect, are those fields. -/
theorem get?_toCommand_of_found
    (found : ∀ field ∈ effect.fields, command.get? field.1 = some field.2) (key : String) :
    effect.toCommand.get? key =
      if key ∈ effect.fields.map Prod.fst then command.get? key else none := by
  rw [get?_toCommand]
  by_cases declared : key ∈ effect.fields.map Prod.fst
  · obtain ⟨field, member, rfl⟩ := List.mem_map.mp declared
    rw [if_pos declared, found field member, effect.lookup_of_mem member]
  · rw [if_neg declared]
    refine List.lookup_eq_none_iff.mpr ?_
    intro field member
    have other : key ≠ field.1 := by
      rintro rfl
      exact declared (List.mem_map_of_mem member)
    exact bne_iff_ne.mpr other

/-- The command of an effect is any command with its type and fields, if that has no others. -/
theorem toCommand_eq_iff (typed : command.type = effect.type)
    (found : ∀ field ∈ effect.fields, command.get? field.1 = some field.2) :
    effect.toCommand = command ↔
      ∀ key, key ∉ effect.fields.map Prod.fst → command.get? key = none := by
  constructor
  · intro same key absent
    rw [← same, get?_toCommand_of_found found, if_neg absent]
  · intro others
    refine Command.ext (effect.type_toCommand.trans typed.symm) (Fields.ext_get? _ _ ?_)
    intro key
    refine (get?_toCommand_of_found found key).trans ?_
    by_cases declared : key ∈ effect.fields.map Prod.fst
    · exact if_pos declared
    · exact (if_neg declared).trans (others key declared).symm

/-- **Typed commands come back**, and what is read is what the vocabulary describes. Every effect
is read back from the command that it encodes. A command is read as an effect exactly if its type
is one of the vocabulary, and every field that the type declares is there and holds what it may.
What the effect then encodes is the command with its declared fields alone, so it is the command
itself exactly if that has no other field. Any other command is a failure of the handler. -/
theorem decode_by_vocabulary :
    (∀ effect : Effect, ∃ command, effect.encode = .ok command ∧ decode command = .ok effect) ∧
    ∀ command : Command,
      match decode command with
      | .ok effect => ∃ declared kept, vocabulary.lookup command.type = some declared ∧
          command.Has declared ∧ effect.encode = .ok kept ∧ kept.type = command.type ∧
          (∀ key, kept.get? key =
            if key ∈ declared.map Prod.fst then command.get? key else none) ∧
          (kept = command ↔ ∀ key, key ∉ declared.map Prod.fst → command.get? key = none)
      | .error failure => ¬ command.Conforms ∧ failure.kind = .handler ∧
          ∃ error : DecodeError,
            failure.message = "malformed `" ++ command.type ++ "` command: " ++ error.message := by
  constructor
  · intro effect
    refine ⟨_, effect.encode_eq, ?_⟩
    rw [decode, ofCommand_toCommand]
    rfl
  · intro command
    unfold decode
    cases read : ofCommand command with
    | ok effect =>
        obtain ⟨typed, found⟩ := ofCommand_eq_ok_iff.mp read
        obtain ⟨declared, listed, names, admitted⟩ := effect.exists_declared
        refine ⟨declared, effect.toCommand, typed ▸ listed, ?_, effect.encode_eq,
          effect.type_toCommand.trans typed.symm, ?_, ?_⟩
        · intro field member
          obtain ⟨value, present, admits⟩ := admitted field member
          exact ⟨value, found _ present, admits⟩
        · rw [← names]
          exact get?_toCommand_of_found found
        · rw [← names]
          exact toCommand_eq_iff typed found
    | error error =>
        refine ⟨?_, rfl, error, rfl⟩
        intro conforms
        obtain ⟨effect, typed, found⟩ := exists_of_conforms conforms
        rw [ofCommand_eq_ok_iff.mpr ⟨typed, found⟩] at read
        cases read

end Read

end Effect

end Resumable
