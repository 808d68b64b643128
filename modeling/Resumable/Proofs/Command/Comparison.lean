import Resumable.Suspension
import Resumable.Proofs.Json.Likeness
import Resumable.Proofs.Traversal

/-! # Comparing suspensions by their JSON form

A replay compares suspensions by their JSON form. No difference is found between the forms of two
commands exactly if they have the same type and alike payloads, and none between the forms of two
suspensions exactly if both are single commands or both are batches, and their commands agree one
by one (`Suspension.alike_toJson_iff`). The form says everything: what is read from it is the
suspension, and a value is read as a suspension only if it is its form
(`Suspension.ofWire?_iff_toJson`).
-/

namespace Resumable

open Json (Value Fields Number)

namespace Command

variable {left right : Command}

/-- The commands have one type and alike payloads. -/
def Alike (left right : Command) : Prop :=
  left.type = right.type ∧ (Value.object left.payload).alike (.object right.payload) = true

/-- In the flat form the type stands among the fields, and no field of the payload hides it. -/
theorem get?_fields (command : Command) (key : String) :
    command.fields.get? key =
      if key = "type" then some (.string command.type) else command.payload.get? key :=
  Fields.get?_insert command.payload "type" (.string command.type) key

theorem alike_toJson_iff : left.toJson.alike right.toJson = true ↔ left.Alike right := by
  rw [Alike, Value.alike_iff, Value.alike_iff]
  simp only [toJson, Value.eqWith, Value.eqFieldsWith_iff_get?]
  constructor
  · intro equal
    constructor
    · have tags := equal "type"
      rw [get?_fields, get?_fields, if_pos rfl, if_pos rfl] at tags
      cases tags with
      | some same => exact eq_of_beq same
    · intro key
      by_cases tag : key = "type"
      · rw [tag, left.untagged, right.untagged]
        exact .none
      · have there := equal key
        rwa [get?_fields, get?_fields, if_neg tag, if_neg tag] at there
  · intro alike key
    obtain ⟨types, payloads⟩ := alike
    rw [get?_fields, get?_fields]
    by_cases tag : key = "type"
    · rw [if_pos tag, if_pos tag, types]
      exact .some (beq_self_eq_true right.type)
    · rw [if_neg tag, if_neg tag]
      exact payloads key

/-- A value is read as a command exactly if it is its flat form. -/
theorem ofWire?_iff_toJson {value : Value} {command : Command} :
    ofWire? value = some command ↔ command.toJson = value := by
  rw [ofWire?_eq_some_iff]
  constructor
  · exact toJson_of_ofJson
  · intro form
    rw [← form]
    exact command.ofJson_toJson

/-- Commands are read one by one from the array of their flat forms. -/
theorem mapM_ofWire?_iff {elements : List Value} {commands : List Command} :
    elements.mapM ofWire? = some commands ↔ commands.map toJson = elements := by
  have forms : commands.map toJson = elements ↔
      List.Forall₂ (fun element command => toJson command = element) elements commands := by
    rw [eq_comm, ← List.forall₂_eq_eq_eq, List.forall₂_map_right_iff]
    simp only [eq_comm]
  simp only [mapM_eq_some_iff, forms, ofWire?_iff_toJson]

end Command

namespace Suspension

variable {left right : Suspension}

/-- Both suspensions are single commands, or both are batches, and their commands are alike
position by position. -/
inductive Alike : Suspension → Suspension → Prop
  | one {left right : Command} (alike : left.Alike right) : Alike (.one left) (.one right)
  | all {lefts rights : List Command} (alike : List.Forall₂ Command.Alike lefts rights) :
      Alike (.all lefts) (.all rights)

theorem alike_all_iff {lefts rights : List Command} :
    (all lefts).toJson.alike (all rights).toJson = true ↔
      List.Forall₂ Command.Alike lefts rights := by
  have each (left right : Command) :
      left.toJson.eqWith Number.sameValue right.toJson = true ↔ left.Alike right := by
    rw [← Value.alike_iff, Command.alike_toJson_iff]
  simp only [Value.alike_iff, toJson, Value.eqWith, Value.eqElementsWith_iff_forall₂,
    List.forall₂_map_left_iff, List.forall₂_map_right_iff, each]

/-- **The forms of suspensions are alike exactly if the suspensions are.** -/
theorem alike_toJson_iff : left.toJson.alike right.toJson = true ↔ left.Alike right := by
  cases left with
  | one left =>
    cases right with
    | one right =>
      rw [toJson, toJson, Command.alike_toJson_iff]
      constructor
      · exact .one
      · intro alike
        cases alike with
        | one alike => exact alike
    | all rights =>
      refine iff_of_false Bool.false_ne_true ?_
      intro alike
      cases alike
  | all lefts =>
    cases right with
    | one right =>
      refine iff_of_false Bool.false_ne_true ?_
      intro alike
      cases alike
    | all rights =>
      rw [alike_all_iff]
      constructor
      · exact .all
      · intro alike
        cases alike with
        | all alike => exact alike

theorem toWire_eq_toJson (suspension : Suspension) : suspension.toWire = suspension.toJson := by
  cases suspension with
  | one command => exact command.toWire_eq_toJson
  | all commands =>
    exact congrArg Value.array (List.map_congr_left fun command _ => command.toWire_eq_toJson)

/-- **A value is read as a suspension exactly if it is its form.** -/
theorem ofWire?_iff_toJson {value : Value} {suspension : Suspension} :
    ofWire? value = some suspension ↔ suspension.toJson = value := by
  constructor
  · intro read
    rw [ofWire?] at read
    cases single : Command.ofWire? value with
    | some command =>
      rw [single] at read
      cases read
      exact Command.ofWire?_iff_toJson.mp single
    | none =>
      rw [single] at read
      obtain ⟨elements, array, read⟩ := Option.bind_eq_some_iff.mp read
      obtain ⟨commands, each, same⟩ := Option.bind_eq_some_iff.mp read
      cases same
      cases value <;> cases array
      exact congrArg Value.array (Command.mapM_ofWire?_iff.mp each)
  · intro form
    subst form
    cases suspension with
    | one command =>
      have single : Command.ofWire? command.toJson = some command :=
        Command.ofWire?_iff_toJson.mpr rfl
      rw [toJson, ofWire?, single]
    | all commands =>
      have each : (commands.map Command.toJson).mapM Command.ofWire? = some commands :=
        Command.mapM_ofWire?_iff.mpr rfl
      have single : Command.ofWire? (.array (commands.map Command.toJson)) = none := rfl
      rw [toJson, ofWire?, single, Value.elements?]
      simp only [Option.bind_eq_bind, Option.bind_some, each, Option.pure_def]

/-- **Comparing the forms of suspensions confuses nothing.** No difference is found between the
forms exactly of alike suspensions. So a single command is never taken for a batch, and commands of
different types are told apart whatever their payloads hold. The form of a suspension is its wire
form, and a value is read as a suspension exactly if it is the suspension's form. -/
theorem compared_by_form :
    (∀ left right : Suspension,
      left.toJson.difference? right.toJson = none ↔ left.Alike right) ∧
    (∀ (command : Command) (commands : List Command),
      (one command).toJson.difference? (all commands).toJson ≠ none ∧
      (all commands).toJson.difference? (one command).toJson ≠ none) ∧
    (∀ left right : Command, left.type ≠ right.type →
      (one left).toJson.difference? (one right).toJson ≠ none) ∧
    ∀ suspension : Suspension, suspension.toWire = suspension.toJson ∧
      ofWire? suspension.toJson = some suspension ∧
      ∀ value, ofWire? value = some suspension ↔ suspension.toJson = value := by
  have alike_iff (left right : Suspension) :
      left.toJson.difference? right.toJson = none ↔ left.Alike right := by
    rw [← alike_toJson_iff, Value.alike_iff_difference?]
  refine ⟨alike_iff, ?_, ?_, ?_⟩
  · intro command commands
    rw [ne_eq, ne_eq, alike_iff, alike_iff]
    constructor
    · intro alike
      cases alike
    · intro alike
      cases alike
  · intro left right differ same
    cases (alike_iff _ _).mp same with
    | one alike => exact differ alike.1
  · intro suspension
    exact ⟨suspension.toWire_eq_toJson, ofWire?_iff_toJson.mpr rfl, fun value => ofWire?_iff_toJson⟩

/-- Two commands have their types in each other's payload, and are told apart. -/
theorem compared_by_form_of_crossed :
    let get := (Command.ofType "get").withField "kind" (.string "put")
    let put := (Command.ofType "put").withField "kind" (.string "get")
    get.type ≠ put.type ∧ (one get).toJson.difference? (one put).toJson ≠ none := by
  intro get put
  have differ : get.type ≠ put.type := by decide
  exact ⟨differ, compared_by_form.2.2.1 get put differ⟩

end Suspension

end Resumable
