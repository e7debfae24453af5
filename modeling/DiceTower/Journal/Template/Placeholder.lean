import DiceTower.Numeral

/-!
# Placeholders

A placeholder of a message template starts with a percent sign and ends with a letter. Between the
two may stand a name in parentheses, which may hold parentheses that match; then flags; a least
width; a point with a precision; and one letter for the size of numbers, which means nothing. An
asterisk in place of a width or precision takes it from the arguments.

`pieces` takes a template apart: characters that stand for themselves, and placeholders. Two percent
signs in a row stand for one.
-/

namespace DiceTower.Journal.Template

/-- The name in a placeholder. -/
inductive Name where
  | closed (name : String)
  /-- The parenthesis is never closed. -/
  | unclosed
deriving DecidableEq, Repr, Inhabited

/-- A width or a precision. -/
inductive Measure where
  | fixed (size : Nat)
  /-- It is taken from the arguments. -/
  | given
deriving DecidableEq, Repr, Inhabited

/-- The flags of a placeholder. -/
structure Flags where
  left : Bool := false
  zeros : Bool := false
  plus : Bool := false
  space : Bool := false
  marked : Bool := false
deriving DecidableEq, Repr, Inhabited

/-- A placeholder, behind its percent sign. -/
structure Placeholder where
  name : Option Name
  flags : Flags
  width : Option Measure
  precision : Option Measure
  /-- The letter at the end, unless the template ends before it. -/
  letter : Option Char
  /-- How many characters it takes, the letter included. -/
  size : Nat
deriving DecidableEq, Repr, Inhabited

/-! ## Reading the parts -/

/-- The text up to the parenthesis that closes it, when some more are open, and what follows. -/
def closing? : (opened : Nat) → List Char → Option (List Char × List Char)
  | _, [] => none
  | 0, ')' :: rest => some ([], rest)
  | opened, c :: rest =>
    let opened := if c = '(' then opened + 1 else if c = ')' then opened - 1 else opened
    (closing? opened rest).map fun (inner, after) => (c :: inner, after)

/-- The name a text starts with, and what follows. -/
def readName : List Char → Option Name × List Char
  | '(' :: rest =>
    match closing? 0 rest with
    | some (inner, after) => (some (.closed (String.ofList inner)), after)
    | none => (some .unclosed, [])
  | text => (none, text)

/-- The flags after one more. -/
def Flags.with? (flags : Flags) (c : Char) : Option Flags :=
  match c with
  | '-' => some { flags with left := true }
  | '0' => some { flags with zeros := true }
  | '+' => some { flags with plus := true }
  | ' ' => some { flags with space := true }
  | '#' => some { flags with marked := true }
  | _ => none

/-- The flags a text starts with, and what follows. -/
def Flags.read (flags : Flags) : List Char → Flags × List Char
  | [] => (flags, [])
  | c :: rest =>
    match flags.with? c with
    | some flags => Flags.read flags rest
    | none => (flags, c :: rest)

/-- The width or precision a text starts with, and what follows. -/
def Measure.read? : List Char → Option Measure × List Char
  | '*' :: rest => (some .given, rest)
  | text =>
    match text.takeWhile Char.isDigit with
    | [] => (none, text)
    | digits => (some (.fixed (Numeral.value digits)), text.dropWhile Char.isDigit)

/-- The precision a text starts with, and what follows. A point alone means zero. -/
def readPrecision : List Char → Option Measure × List Char
  | '.' :: rest =>
    let (measure, after) := Measure.read? rest
    (some (measure.getD (.fixed 0)), after)
  | text => (none, text)

/-- The text without one letter for the size of numbers. -/
def afterSize : List Char → List Char
  | c :: rest => if c = 'h' ∨ c = 'l' ∨ c = 'L' then rest else c :: rest
  | [] => []

/-- The placeholder a text starts with. -/
def Placeholder.read (text : List Char) : Placeholder :=
  let (name, afterName) := readName text
  let (flags, afterFlags) := Flags.read {} afterName
  let (width, afterWidth) := Measure.read? afterFlags
  let (precision, afterPrecision) := readPrecision afterWidth
  let last := afterSize afterPrecision
  { name, flags, width, precision, letter := last.head?
    size := text.length - (last.drop 1).length }

/-! ## Pieces of a template -/

/-- A piece of a template. -/
inductive Piece where
  /-- A character that stands for itself. -/
  | char (c : Char)
  /-- A placeholder that ends at a place. -/
  | placeholder (placeholder : Placeholder) (place : Nat)
deriving DecidableEq, Repr, Inhabited

/-- The pieces of a text that starts at a place, when `inside` characters of it still belong to an
earlier one. -/
def pieces : (inside place : Nat) → List Char → List Piece
  | _, _, [] => []
  | inside + 1, place, _ :: rest => pieces inside (place + 1) rest
  | 0, place, '%' :: rest =>
    if rest.head? = some '%' then .char '%' :: pieces 1 (place + 1) rest
    else
      let found := Placeholder.read rest
      .placeholder found (place + found.size) :: pieces found.size (place + 1) rest
  | 0, place, c :: rest => .char c :: pieces 0 (place + 1) rest

end DiceTower.Journal.Template
