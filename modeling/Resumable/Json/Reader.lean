import Resumable.Json.Fields

/-!
# Reading JSON text

`Value.read?` reads one JSON document. A number written without a point and without an exponent is
an integer if it fits a 64-bit word, signed or unsigned; every other number, and a minus sign before
zero, is a binary64 number, read from no more digits than a 64-bit word can hold. Of two fields with
one key the later counts.
-/

namespace Resumable.Json

namespace Reader

def skipBlanks (text : List Char) : List Char :=
  text.dropWhile fun c => c = ' ' || c = '\n' || c = '\r' || c = '\t'

def hexDigit? (c : Char) : Option Nat :=
  if '0' ≤ c ∧ c ≤ '9' then some (c.toNat - '0'.toNat)
  else if 'a' ≤ c ∧ c ≤ 'f' then some (c.toNat - 'a'.toNat + 10)
  else if 'A' ≤ c ∧ c ≤ 'F' then some (c.toNat - 'A'.toNat + 10)
  else none

def unit? : List Char → Option (Nat × List Char)
  | a :: b :: c :: d :: rest => do
    let high := (← hexDigit? a) * 16 + (← hexDigit? b)
    let low := (← hexDigit? c) * 16 + (← hexDigit? d)
    pure (high * 256 + low, rest)
  | _ => none

/-- The character that an escape of the form `\uXXXX`, or a pair of them, stands for. -/
def codePoint? (text : List Char) : Option (Char × List Char) := do
  let (first, rest) ← unit? text
  if 0xD800 ≤ first ∧ first < 0xDC00 then
    match rest with
    | '\\' :: 'u' :: rest => do
      let (second, rest) ← unit? rest
      guard (0xDC00 ≤ second ∧ second < 0xE000)
      pure (Char.ofNat (0x10000 + (first - 0xD800) * 0x400 + (second - 0xDC00)), rest)
    | _ => none
  else do
    guard (¬ (0xDC00 ≤ first ∧ first < 0xE000))
    pure (Char.ofNat first, rest)

/-- The characters of a string up to its closing quote, the last one first, before `done`. -/
def characters : (fuel : Nat) → (done text : List Char) → Option (List Char × List Char)
  | 0, _, _ => none
  | _ + 1, done, '"' :: rest => some (done, rest)
  | fuel + 1, done, '\\' :: 'u' :: rest => do
    let (c, rest) ← codePoint? rest
    characters fuel (c :: done) rest
  | fuel + 1, done, '\\' :: c :: rest => do
    let plain ←
      match c with
      | '"' => some '"'
      | '\\' => some '\\'
      | '/' => some '/'
      | 'b' => some '\x08'
      | 'f' => some '\x0c'
      | 'n' => some '\n'
      | 'r' => some '\r'
      | 't' => some '\t'
      | _ => none
    characters fuel (plain :: done) rest
  | fuel + 1, done, c :: rest =>
    if c.toNat < 0x20 then none else characters fuel (c :: done) rest
  | _, _, [] => none

def string? (text : List Char) : Option (String × List Char) := do
  let (reversed, rest) ← characters (text.length + 1) [] text
  pure (String.ofList reversed.reverse, rest)

/-- The decimal digits at the front, and the rest. -/
def digits (text : List Char) : List Char × List Char :=
  text.span Char.isDigit

def natural (digits : List Char) : Nat :=
  digits.foldl (fun value c => value * 10 + (c.toNat - '0'.toNat)) 0

/-- Appends decimal digits to a number up to the first one with which it would no longer fit a
64-bit word. Returns the number and the count of digits left over. -/
def appendDigits : (number : Nat) → List Char → Nat × Nat
  | number, [] => (number, 0)
  | number, c :: rest =>
    let longer := number * 10 + (c.toNat - '0'.toNat)
    if longer < UInt64.size then appendDigits longer rest else (number, rest.length + 1)

/-- The decimal of the digits before and after the point and of an exponent, cut to a 64-bit word:
digits left over before the point are counted as zeros, those after it not at all. -/
def decimal (whole fraction : List Char) (exponent : Int) : Decimal :=
  let (digits, zeros) := appendDigits 0 whole
  let (digits, ignored) := appendDigits digits fraction
  ⟨digits, exponent + zeros - (fraction.length - ignored)⟩

def fraction? : List Char → Option (List Char × List Char)
  | '.' :: rest =>
    match digits rest with
    | ([], _) => none
    | found => some found
  | rest => some ([], rest)

def exponent? : List Char → Option (Option Int × List Char)
  | mark :: rest =>
    if mark = 'e' ∨ mark = 'E' then
      let (negative, unsigned) :=
        match rest with
        | '-' :: rest => (true, rest)
        | '+' :: rest => (false, rest)
        | rest => (false, rest)
      match digits unsigned with
      | ([], _) => none
      | (found, rest) =>
        some (some (if negative then -(natural found : Int) else natural found), rest)
    else some (none, mark :: rest)
  | [] => some (none, [])

/-- An integer of the 64-bit ranges, the negative zero excepted. -/
def integer? (negative : Bool) (magnitude : Nat) : Option Number :=
  if negative && magnitude == 0 then none
  else
    let value : Int := if negative then -magnitude else magnitude
    if inRange : -9223372036854775808 ≤ value ∧ value < 18446744073709551616 then
      some (.int value inRange)
    else none

/-- A number after its sign. -/
def unsigned? (negative : Bool) (text : List Char) : Option (Number × List Char) := do
  let (whole, afterWhole) := digits text
  guard (whole ≠ [] ∧ (whole.length = 1 ∨ whole.head? ≠ some '0'))
  let (fraction, afterFraction) ← fraction? afterWhole
  let (exponent, rest) ← exponent? afterFraction
  let double := Double.ofDecimal? negative (decimal whole fraction (exponent.getD 0))
  if fraction = [] ∧ exponent = none then
    match integer? negative (natural whole) with
    | some number => pure (number, rest)
    | none => pure (.double (← double), rest)
  else pure (.double (← double), rest)

def number? : List Char → Option (Number × List Char)
  | '-' :: rest => unsigned? true rest
  | text => unsigned? false text

mutual

/-- One value, after the blanks before it. -/
def value? : (fuel : Nat) → List Char → Option (Value × List Char)
  | 0, _ => none
  | fuel + 1, text =>
    match skipBlanks text with
    | 'n' :: 'u' :: 'l' :: 'l' :: rest => some (.null, rest)
    | 't' :: 'r' :: 'u' :: 'e' :: rest => some (.bool true, rest)
    | 'f' :: 'a' :: 'l' :: 's' :: 'e' :: rest => some (.bool false, rest)
    | '"' :: rest => do
      let (text, rest) ← string? rest
      pure (.string text, rest)
    | '[' :: rest =>
      match skipBlanks rest with
      | ']' :: rest => some (.array [], rest)
      | rest => do
        let (values, rest) ← elements? fuel rest
        pure (.array values, rest)
    | '\x7b' :: rest =>
      match skipBlanks rest with
      | '\x7d' :: rest => some (.emptyObject, rest)
      | rest => do
        let (fields, rest) ← fields? fuel rest
        pure (.object (Fields.ofList fields), rest)
    | text => do
      let (number, rest) ← number? text
      pure (.number number, rest)

/-- The elements of an array up to its closing bracket; there is at least one. -/
def elements? : (fuel : Nat) → List Char → Option (List Value × List Char)
  | 0, _ => none
  | fuel + 1, text => do
    let (value, rest) ← value? fuel text
    match skipBlanks rest with
    | ',' :: rest => do
      let (values, rest) ← elements? fuel rest
      pure (value :: values, rest)
    | ']' :: rest => pure ([value], rest)
    | _ => none

/-- The fields of an object up to its closing brace; there is at least one. -/
def fields? : (fuel : Nat) → List Char → Option (List (String × Value) × List Char)
  | 0, _ => none
  | fuel + 1, text =>
    match skipBlanks text with
    | '"' :: rest => do
      let (key, rest) ← string? rest
      match skipBlanks rest with
      | ':' :: rest => do
        let (value, rest) ← value? fuel rest
        match skipBlanks rest with
        | ',' :: rest => do
          let (fields, rest) ← fields? fuel rest
          pure ((key, value) :: fields, rest)
        | '\x7d' :: rest => pure ([(key, value)], rest)
        | _ => none
      | _ => none
    | _ => none

end

end Reader

/-- The JSON document that is the whole of `text`, blanks around it apart. Every step of the reader
consumes a character, so that twice the length of the text bounds the depth of its calls. -/
def Value.read? (text : String) : Option Value := do
  let chars := text.toList
  let (value, rest) ← Reader.value? (2 * chars.length + 2) chars
  guard (Reader.skipBlanks rest = [])
  pure value

end Resumable.Json
