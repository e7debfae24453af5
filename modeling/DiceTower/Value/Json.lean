import DiceTower.Binary.Notation
import DiceTower.Value

/-!
# Values as JSON text

`Value.json` writes a value as JSON on one line, in ASCII: a character beyond it is written by the
units of sixteen bits that encode it. A binary number keeps its point or its exponent, so that it is
not taken for an integer.
-/

namespace DiceTower.Value

/-- The hexadecimal digit of a number below sixteen. -/
def hexDigit (n : Nat) : Char :=
  Nat.digitChar (n % 16)

/-- The escape of a unit of sixteen bits. -/
def unitEscape (unit : Nat) : List Char :=
  ['\\', 'u', hexDigit (unit / 4096), hexDigit (unit / 256), hexDigit (unit / 16), hexDigit unit]

/-- The units of sixteen bits of a code point. -/
def units (point : Nat) : List Nat :=
  if point < 0x10000 then [point]
  else [0xd800 + (point - 0x10000) / 0x400, 0xdc00 + (point - 0x10000) % 0x400]

/-- A character inside a JSON string. -/
def jsonChar (c : Char) : List Char :=
  if c = '"' then ['\\', '"']
  else if c = '\\' then ['\\', '\\']
  else if c = '\n' then ['\\', 'n']
  else if c = '\r' then ['\\', 'r']
  else if c = '\t' then ['\\', 't']
  else if 0x20 ≤ c.toNat ∧ c.toNat < 0x7f then [c]
  else (units c.toNat).flatMap unitEscape

/-- A JSON string. -/
def jsonString (text : String) : String :=
  String.ofList (['"'] ++ text.toList.flatMap jsonChar ++ ['"'])

/-- A binary number. -/
def jsonBinary : Binary → String
  | .infinite negative => Binary.signed negative "Infinity"
  | number => number.text

mutual

/-- The JSON text of a value. -/
def json : Value → String
  | null => "null"
  | bool value => if value then "true" else "false"
  | int value => toString value
  | binary value => jsonBinary value
  | text value => jsonString value
  | list items => "[" ++ ", ".intercalate (jsonItems items) ++ "]"
  | record fields => "\x7b" ++ ", ".intercalate (jsonFields fields) ++ "\x7d"

/-- The JSON texts of some values. -/
def jsonItems : List Value → List String
  | [] => []
  | item :: rest => json item :: jsonItems rest

/-- The JSON texts of some named values. -/
def jsonFields : List (String × Value) → List String
  | [] => []
  | (name, value) :: rest => (jsonString name ++ ": " ++ json value) :: jsonFields rest

end

end DiceTower.Value
