import DiceTower.Text.Quoted
import DiceTower.Value

/-!
# Faults of message templates

What can be wrong with a template and its arguments, and the wording of each fault.
-/

namespace DiceTower.Journal.Template

open DiceTower.Text

/-- What is wrong with a template and its arguments. -/
inductive Fault where
  | tooFewArguments
  | tooManyArguments
  /-- A value whose length tells how many arguments there are has no length. -/
  | noLength (type : String)
  /-- A record is the only one of its arguments, but has no first item. -/
  | noFirstItem
  /-- A number is wanted where an argument of that type stands. -/
  | notNumber (letter : Char) (type : String)
  /-- A whole number is wanted where an argument of that type stands. -/
  | notInteger (letter : Char) (type : String)
  /-- A number that may have a fraction is wanted where an argument of that type stands. -/
  | notReal (type : String)
  /-- A character or its number is wanted. -/
  | notCharacter
  /-- No character has that number. -/
  | noSuchCharacter
  /-- An infinite number has no decimal. -/
  | infinite
  /-- An integer is beyond all finite binary numbers. -/
  | beyondBinary
  /-- A width or precision is to be taken from the arguments, but is no integer there. -/
  | measureNotInteger
  | widthTooBig
  | precisionTooBig
  /-- A width from the arguments is too big. -/
  | givenWidthTooBig
  /-- A precision from the arguments is too big. -/
  | givenPrecisionTooBig
  /-- A number cannot be brought to so many digits. -/
  | tooManyDigits
  /-- The template ends inside a placeholder. -/
  | unfinished
  /-- The template ends inside the name of a placeholder. -/
  | unfinishedName
  /-- A letter that means nothing, and its place. -/
  | unknownLetter (letter : Char) (place : Nat)
  | noSuchName (name : String)
  /-- Names are used, but the argument has none. -/
  | notRecord
  /-- Names are used, but the argument is a list. -/
  | notNamed
  | numeral (fault : Numeral.Fault)
deriving DecidableEq, Repr, Inhabited

/-- A letter as it is shown in a fault: off ASCII and for most control characters a question mark
stands for it. -/
def shown (letter : Char) : Char :=
  if 31 ≤ letter.toNat && letter.toNat < 127 then letter else '?'

/-- The wording of a fault. -/
def Fault.message : Fault → String
  | tooFewArguments => "not enough arguments for format string"
  | tooManyArguments => "not all arguments converted during string formatting"
  | noLength type => "object of type '" ++ type ++ "' has no len()"
  | noFirstItem => "0"
  | notNumber letter type =>
    "%" ++ String.singleton letter ++ " format: a real number is required, not " ++ type
  | notInteger letter type =>
    "%" ++ String.singleton letter ++ " format: an integer is required, not " ++ type
  | notReal type => "must be real number, not " ++ type
  | notCharacter => "%c requires int or char"
  | noSuchCharacter => "%c arg not in range(0x110000)"
  | infinite => "cannot convert float infinity to integer"
  | beyondBinary => "int too large to convert to float"
  | measureNotInteger => "* wants int"
  | widthTooBig => "width too big"
  | precisionTooBig => "precision too big"
  | givenWidthTooBig => "Python int too large to convert to C ssize_t"
  | givenPrecisionTooBig => "Python int too large to convert to C int"
  | tooManyDigits => "precision too large"
  | unfinished => "incomplete format"
  | unfinishedName => "incomplete format key"
  | unknownLetter letter place =>
    "unsupported format character '" ++ String.singleton (shown letter) ++ "' (0x" ++
      String.ofList (hexadecimal 0 letter.toNat) ++ ") at index " ++ toString place
  | noSuchName name => quoted name
  | notRecord => "format requires a mapping"
  | notNamed => "list indices must be integers or slices, not str"
  | numeral fault => fault.message

end DiceTower.Journal.Template
