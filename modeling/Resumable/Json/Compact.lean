import Resumable.Json.Value

/-!
# Compact JSON text

`Value.compact` writes a value without spaces and with the keys of objects in ascending order. A
string escapes its quotes, its backslashes and the control characters below U+0020, nothing else.
-/

namespace Resumable.Json

def escapedChar (c : Char) : List Char :=
  match c with
  | '"' => ['\\', '"']
  | '\\' => ['\\', '\\']
  | '\n' => ['\\', 'n']
  | '\r' => ['\\', 'r']
  | '\t' => ['\\', 't']
  | '\x08' => ['\\', 'b']
  | '\x0c' => ['\\', 'f']
  | c =>
    if c.toNat < 0x20 then
      ['\\', 'u', '0', '0', Nat.digitChar (c.toNat / 16), Nat.digitChar (c.toNat % 16)]
    else [c]

def quoted (text : String) : String :=
  "\"" ++ String.ofList (text.toList.flatMap escapedChar) ++ "\""

namespace Value

mutual

/-- The compact text of a value. -/
def compact : Value → String
  | .null => "null"
  | .bool true => "true"
  | .bool false => "false"
  | .number value => value.text
  | .string value => quoted value
  | .array elements => "[" ++ ",".intercalate (compactElements elements) ++ "]"
  | .object fields => "\x7b" ++ ",".intercalate (compactFields fields) ++ "\x7d"

def compactElements : List Value → List String
  | [] => []
  | value :: rest => value.compact :: compactElements rest

def compactFields {bound : Option String} : Fields bound → List String
  | .nil => []
  | .cons key _ value rest => (quoted key ++ ":" ++ value.compact) :: compactFields rest

end

end Value

end Resumable.Json
