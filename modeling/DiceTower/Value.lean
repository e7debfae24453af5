import DiceTower.Binary
import DiceTower.Numeral
import DiceTower.Record

/-!
# Values

A value is what a setting may be given in code and what a field of a log line may hold: nothing, a
truth value, a number, a text, or a list or record of values. A number is an integer or a binary
number, and these are different values also where they are equal as numbers. `Value.legible` says
that every integer inside a value is short enough to be written, and `Value.isVoid` that a value
holds nothing.
-/

namespace DiceTower

/-- A value of a setting or of a log field. -/
inductive Value where
  | null
  | bool (value : Bool)
  | int (value : Int)
  | binary (value : Binary)
  | text (value : String)
  | list (items : List Value)
  | record (fields : List (String × Value))
deriving Repr, Inhabited

namespace Value

mutual

/-- All integers in a value are short enough to be written. -/
def legible : Value → Bool
  | int value => decide (Numeral.Fits value)
  | list items => legibleAll items
  | record fields => legibleFields fields
  | _ => true

/-- All integers in some values are short enough to be written. -/
def legibleAll : List Value → Bool
  | [] => true
  | item :: rest => legible item && legibleAll rest

/-- All integers in some named values are short enough to be written. -/
def legibleFields : List (String × Value) → Bool
  | [] => true
  | (_, value) :: rest => legible value && legibleFields rest

end

/-- Whether a value holds nothing: null, false, zero, and what is empty. -/
def isVoid : Value → Bool
  | null => true
  | bool value => !value
  | int value => value == 0
  | binary value => value.isZero
  | text value => value.isEmpty
  | list items => items.isEmpty
  | record fields => fields.isEmpty

/-- A value, or null in place of an absent one. -/
def orNull {α : Type} (value : α → Value) : Option α → Value
  | some a => value a
  | none => null

end Value

end DiceTower
