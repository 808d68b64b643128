import Resumable.Json.Value
import Resumable.Text.Quoted

/-!
# Descriptions of JSON values

`Value.description` spells a value out with the names of its kinds, for people who read a log.
-/

namespace Resumable.Json.Value

mutual

/-- A value with the names of the kinds it is made of. -/
def description : Value → String
  | .null => "Null"
  | .bool value => "Bool(" ++ toString value ++ ")"
  | .number value => "Number(" ++ value.text ++ ")"
  | .string value => "String(" ++ Text.visible value ++ ")"
  | .array elements => "Array [" ++ ", ".intercalate (elementDescriptions elements) ++ "]"
  | .object fields => "Object \x7b" ++ ", ".intercalate (fieldDescriptions fields) ++ "\x7d"

def elementDescriptions : List Value → List String
  | [] => []
  | value :: rest => value.description :: elementDescriptions rest

def fieldDescriptions {bound : Option String} : Fields bound → List String
  | .nil => []
  | .cons key _ value rest =>
    (Text.visible key ++ ": " ++ value.description) :: fieldDescriptions rest

end

end Resumable.Json.Value
