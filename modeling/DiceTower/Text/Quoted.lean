import DiceTower.Text.Printable

/-!
# Quoted text

A text in quotes stands between single ones, or between double ones if it holds a single quote and
no double one. The mark itself and the backslash get a backslash, and a character that cannot be
seen is written by its number in hexadecimal. `asciiOnly` writes every character beyond ASCII so.
-/

namespace DiceTower.Text

/-- A number in hexadecimal with at least some digits. -/
def hexadecimal (digits n : Nat) : List Char :=
  let written := Nat.toDigits 16 n
  List.replicate (digits - written.length) '0' ++ written

/-- The escape of a character by its number, as short as the number allows. -/
def numbered (c : Char) : List Char :=
  let n := c.toNat
  if n < 0x100 then '\\' :: 'x' :: hexadecimal 2 n
  else if n < 0x10000 then '\\' :: 'u' :: hexadecimal 4 n
  else '\\' :: 'U' :: hexadecimal 8 n

/-- A character as it stands between quotes of a kind. -/
def escaped (mark : Char) (c : Char) : List Char :=
  if c = '\\' || c = mark then ['\\', c]
  else if c = '\n' then ['\\', 'n']
  else if c = '\r' then ['\\', 'r']
  else if c = '\t' then ['\\', 't']
  else if isPrintable c then [c]
  else numbered c

/-- The quotes that suit a text. -/
def markOf (text : List Char) : Char :=
  if text.contains '\x27' && !text.contains '"' then '"' else '\x27'

/-- A text in quotes. -/
def quoted (text : String) : String :=
  let mark := markOf text.toList
  String.ofList ([mark] ++ text.toList.flatMap (escaped mark) ++ [mark])

/-- A text with its characters beyond ASCII escaped. -/
def asciiOnly (text : String) : String :=
  String.ofList (text.toList.flatMap fun c => if c.toNat < 0x80 then [c] else numbered c)

end DiceTower.Text
