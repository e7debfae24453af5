import DiceTower.Binary.Notation
import DiceTower.Text.Quoted
import DiceTower.Value

/-!
# Values in messages

In a message a text stands for itself, and any other value by its literal: `Value.literal` is how a
value stands in a list, where texts are quoted. An integer that is too long cannot be written, and
then neither can the value it stands in.
-/

namespace DiceTower.Value

open DiceTower.Text

/-- The numeral of an integer. -/
def integerText (n : Int) : Except Numeral.Fault String :=
  if Numeral.Fits n then .ok (toString n) else .error .unwritable

mutual

/-- A value as it stands in a list. -/
def literal : Value → Except Numeral.Fault String
  | null => .ok "None"
  | bool value => .ok (if value then "True" else "False")
  | int value => integerText value
  | binary value => .ok value.text
  | text value => .ok (quoted value)
  | list items => do
    let inner ← literals items
    return "[" ++ ", ".intercalate inner ++ "]"
  | record fields => do
    let inner ← literalFields fields
    return "\x7b" ++ ", ".intercalate inner ++ "\x7d"

/-- Values as they stand in a list. -/
def literals : List Value → Except Numeral.Fault (List String)
  | [] => .ok []
  | item :: rest => do
    let first ← literal item
    let others ← literals rest
    return first :: others

/-- Named values as they stand in a record. -/
def literalFields : List (String × Value) → Except Numeral.Fault (List String)
  | [] => .ok []
  | (name, value) :: rest => do
    let first ← literal value
    let others ← literalFields rest
    return (quoted name ++ ": " ++ first) :: others

end

/-- A value by itself: a text stands for itself. -/
def display : Value → Except Numeral.Fault String
  | text value => .ok value
  | value => literal value

/-- The name of the type of a value. -/
def typeName : Value → String
  | null => "NoneType"
  | bool _ => "bool"
  | int _ => "int"
  | binary _ => "float"
  | text _ => "str"
  | list _ => "list"
  | record _ => "dict"

end DiceTower.Value
