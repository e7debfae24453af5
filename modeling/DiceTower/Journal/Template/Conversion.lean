import DiceTower.Journal.Template.Fault
import DiceTower.Journal.Template.Placeholder
import DiceTower.Value.Literal

/-!
# Conversions

The letter of a placeholder says how its value is written: as a text, as it would stand in a list,
as a whole number in some base, as a binary number in some style, or as a single character.
`Conversion.write` writes a value so, brought to the width of its placeholder. Zeros that fill a
number up go behind its sign and the mark of its base.
-/

namespace DiceTower.Journal.Template

/-- How a value is written. -/
inductive Conversion where
  /-- By itself. -/
  | display
  /-- As it stands in a list. -/
  | literal
  /-- As it stands in a list, in ASCII. -/
  | ascii
  /-- As a whole number; a fraction is cut off. -/
  | decimal
  /-- As a whole number in a base that is a power of two. -/
  | based (base : Nat) (capitals : Bool)
  /-- As a binary number. -/
  | binary (style : Binary.Style) (capitals : Bool)
  /-- As a single character. -/
  | character
deriving DecidableEq, Repr, Inhabited

/-- The conversion of a letter. -/
def Conversion.ofLetter? : Char → Option Conversion
  | 's' => some display
  | 'r' => some literal
  | 'a' => some ascii
  | 'd' => some decimal
  | 'i' => some decimal
  | 'u' => some decimal
  | 'o' => some (based 8 false)
  | 'x' => some (based 16 false)
  | 'X' => some (based 16 true)
  | 'e' => some (binary .scientific false)
  | 'E' => some (binary .scientific true)
  | 'f' => some (binary .fixed false)
  | 'F' => some (binary .fixed true)
  | 'g' => some (binary .general false)
  | 'G' => some (binary .general true)
  | 'c' => some character
  | _ => none

/-- How wide and how long a converted value is to be. -/
structure Form where
  flags : Flags
  width : Nat
  precision : Option Nat
deriving DecidableEq, Repr, Inhabited

namespace Form

/-! ## Forms of texts and numbers -/

/-- A text brought to the width of a form. -/
def pad (form : Form) (text : String) : String :=
  let missing := form.width - text.length
  if form.flags.left then text.pushn ' ' missing else "".pushn ' ' missing ++ text

/-- A text cut to the precision of a form and brought to its width. -/
def text (form : Form) (text : String) : String :=
  form.pad (form.precision.elim text fun most => String.ofList (text.toList.take most))

/-- The sign of a number. -/
def sign (form : Form) (negative : Bool) : String :=
  if negative then "-" else if form.flags.plus then "+" else if form.flags.space then " " else ""

/-- A number of a sign, the mark of its base, and its digits. -/
def number (form : Form) (sign mark digits : String) : String :=
  if form.flags.zeros && !form.flags.left then
    let missing := form.width - (sign.length + mark.length + digits.length)
    sign ++ mark ++ "".pushn '0' missing ++ digits
  else
    form.pad (sign ++ mark ++ digits)

/-- The most digits a whole number can be brought to. -/
def mostDigits : Nat := Nat.pow 2 31 - 4

/-- A whole number of given digits, brought to the least number of them. -/
def whole (form : Form) (negative : Bool) (mark : String) (digits : Except Fault String) :
    Except Fault String := do
  let least := form.precision.getD 0
  if mostDigits < least then
    throw .tooManyDigits
  let digits ← digits
  return form.number (form.sign negative) mark ("".pushn '0' (least - digits.length) ++ digits)

end Form

/-! ## Values as numbers and characters -/

/-- A value as a whole number; a fraction is cut off. -/
def truncated (letter : Char) : Value → Except Fault Int
  | .bool value => .ok (if value then 1 else 0)
  | .int value => .ok value
  | .binary value =>
    match value.truncate with
    | some whole => .ok whole
    | none => .error .infinite
  | value => .error (.notNumber letter value.typeName)

/-- A value as an integer, where a fraction will not do. -/
def exact (letter : Char) : Value → Except Fault Int
  | .bool value => .ok (if value then 1 else 0)
  | .int value => .ok value
  | value => .error (.notInteger letter value.typeName)

/-- A value as a binary number. -/
def real : Value → Except Fault Binary
  | .bool value => .ok (Binary.ofInt (if value then 1 else 0))
  | .int value =>
    match Binary.ofInt value with
    | .infinite _ => .error .beyondBinary
    | number => .ok number
  | .binary value => .ok value
  | value => .error (.notReal value.typeName)

/-- The character of a number. -/
def characterOf (n : Int) : Except Fault Char :=
  if 0 ≤ n ∧ n < 0x110000 then .ok (Char.ofNat n.toNat) else .error .noSuchCharacter

/-- A value as a single character. -/
def character : Value → Except Fault Char
  | .bool value => characterOf (if value then 1 else 0)
  | .int value => characterOf value
  | .text value =>
    match value.toList with
    | [c] => .ok c
    | _ => .error .notCharacter
  | _ => .error .notCharacter

/-! ## Conversion -/

/-- A text, in capitals if they are asked for. -/
def capital (capitals : Bool) (text : String) : String :=
  if capitals then text.map Char.toUpper else text

/-- Writes a value in a form by a conversion; the letter stands for it in faults. -/
def Conversion.write (conversion : Conversion) (letter : Char) (form : Form) (value : Value) :
    Except Fault String :=
  match conversion with
  | display => form.text <$> value.display.mapError Fault.numeral
  | literal => form.text <$> value.literal.mapError Fault.numeral
  | ascii => (form.text ∘ Text.asciiOnly) <$> value.literal.mapError Fault.numeral
  | decimal => do
    let n ← truncated letter value
    form.whole (n < 0) "" ((Value.integerText n.natAbs).mapError Fault.numeral)
  | based base capitals => do
    let n ← exact letter value
    let mark := if !form.flags.marked then "" else if base = 8 then "0o" else "0x"
    capital capitals <$>
      form.whole (n < 0) mark (.ok (String.ofList (Nat.toDigits base n.natAbs)))
  | binary style capitals => do
    let number ← real value
    let size := number.size style form.flags.marked (form.precision.getD 6)
    return capital capitals (form.number (form.sign number.isNegative) "" size)
  | character => do
    let c ← Template.character value
    return form.pad (String.singleton c)

end DiceTower.Journal.Template
