import DiceTower.Text.Blank
import DiceTower.Text.Digit
import DiceTower.Text.Letter

/-!
# Lexemes of a command

The body of a command is read from left to right. At each position `Token.first?` decides, from
what follows there, whether a token starts; a position where none starts is passed over, and so
are all characters inside a token. `scan` lists the tokens with their places.

Tokens hold the digits of their numbers as they were written: which of them are converted is
decided by the reader. A number is never cut: the run of digits a token takes is the longest one,
and a run that is followed by a die letter belongs to the dice and to no multiplier or modifier.
-/

namespace DiceTower

open DiceTower.Text

/-- What a lexeme says, with its numbers as texts of digits. -/
inductive Token where
  /-- Digits, a die letter, digits; either number may be empty. -/
  | dice (times faces : List Char)
  /-- A keep letter and digits in parentheses. -/
  | keep (kept : List Char)
  /-- A minus sign and the letter of the lowest or the highest. -/
  | select (flag : Char)
  /-- A times letter and digits. -/
  | multiplier (factor : List Char)
  /-- A sign, blanks and digits. -/
  | modifier (sign : Char) (gap amount : List Char)
deriving DecidableEq, Repr

namespace Token

/-- The number of characters of a token. -/
def width : Token → Nat
  | dice times faces => times.length + 1 + faces.length
  | keep kept => kept.length + 3
  | select _ => 2
  | multiplier factor => factor.length + 1
  | modifier _ gap amount => 1 + gap.length + amount.length

/-- The name of the kind of a token. -/
def kind : Token → String
  | dice .. => "dice"
  | keep .. => "keep"
  | select .. => "select"
  | multiplier .. => "multiplier"
  | modifier .. => "modifier"

/-- The named parts of a token, next to the whole of it. -/
def parts : Token → List (String × List Char)
  | dice times faces => [("times", times), ("faces", faces)]
  | keep kept => [("kept", kept)]
  | select flag => [("flag", [flag])]
  | multiplier factor => [("factor", factor)]
  | modifier sign _ amount => [("sign", [sign]), ("amount", amount)]

/-- The number a text starts with, unless it is the number of dice of what follows. -/
def wholeNumber? (text : List Char) : Option (List Char) :=
  let (digits, rest) := spanDigits text
  if digits.isEmpty || rest.head?.any isDieLetter then none else some digits

/-- The dice a text starts with. -/
def dice? (text : List Char) : Option Token :=
  match spanDigits text with
  | (times, letter :: rest) =>
    if isDieLetter letter then some (dice times (spanDigits rest).1) else none
  | _ => none

/-- The keep clause a text starts with. -/
def keep? : List Char → Option Token
  | '(' :: letter :: rest =>
    match spanDigits rest with
    | (kept, ')' :: _) =>
      if isKeepLetter letter && !kept.isEmpty then some (keep kept) else none
    | _ => none
  | _ => none

/-- The selection a text starts with. -/
def select? : List Char → Option Token
  | '-' :: flag :: _ =>
    if isLowestLetter flag || isHighestLetter flag then some (select flag) else none
  | _ => none

/-- The multiplier a text starts with. -/
def multiplier? : List Char → Option Token
  | letter :: rest => if isTimesLetter letter then (wholeNumber? rest).map multiplier else none
  | [] => none

/-- The modifier a text starts with. -/
def modifier? : List Char → Option Token
  | sign :: rest =>
    if sign == '+' || sign == '-' then
      (wholeNumber? (rest.dropWhile isBlank)).map (modifier sign (rest.takeWhile isBlank))
    else
      none
  | [] => none

/-- The token a text starts with. -/
def first? (text : List Char) : Option Token :=
  dice? text <|> keep? text <|> select? text <|> multiplier? text <|> modifier? text

end Token

/-- A token at its place in a body. -/
structure Lexeme where
  /-- The position of the first character. -/
  start : Nat
  /-- The characters of the token. -/
  text : List Char
  /-- What the lexeme says. -/
  token : Token
deriving DecidableEq, Repr

namespace Lexeme

/-- The position after the last character. -/
def stop (lexeme : Lexeme) : Nat :=
  lexeme.start + lexeme.text.length

/-- The named parts of a lexeme, the whole of it first under the name of its kind. -/
def parts (lexeme : Lexeme) : List (String × List Char) :=
  (lexeme.token.kind, lexeme.text) :: lexeme.token.parts

/-- The lexemes of the rest of a body from a position on, when `inside` characters of it still
belong to an earlier token. -/
def scanFrom : (inside position : Nat) → List Char → List Lexeme
  | _, _, [] => []
  | inside + 1, position, _ :: rest => scanFrom inside (position + 1) rest
  | 0, position, head :: rest =>
    match Token.first? (head :: rest) with
    | some token =>
      ⟨position, (head :: rest).take token.width, token⟩ ::
        scanFrom (token.width - 1) (position + 1) rest
    | none => scanFrom 0 (position + 1) rest

/-- The lexemes of a body, in order. -/
def scan (body : List Char) : List Lexeme :=
  scanFrom 0 0 body

theorem scanFrom_nil (inside position : Nat) : scanFrom inside position [] = [] := by
  cases inside <;> rfl

/-- Inside a token nothing is read. -/
theorem scanFrom_inside (inside position : Nat) (text : List Char) :
    scanFrom inside position text = scanFrom 0 (position + inside) (text.drop inside) := by
  induction inside generalizing position text with
  | zero => simp
  | succ inside ih =>
    cases text with
    | nil => simp [scanFrom_nil]
    | cons head rest =>
      rw [scanFrom, ih, List.drop_succ_cons]
      congr 1
      omega

end Lexeme

end DiceTower
