import DiceTower.Numeral

/-!
# Phrases

A phrase is a line of text with integers in it, kept in pieces. Everything the library says about
integers is a phrase, so the limit on numerals is met in one place: `Phrase.write` gives the text
of a phrase whose integers all fit, and fails for any other. `Phrase.text` is the text without
regard to the limit.
-/

namespace DiceTower

/-- A piece of a phrase: fixed words, or an integer written in decimal. -/
inductive Piece where
  | words (text : String)
  | number (value : Int)
deriving DecidableEq, Repr, Inhabited

/-- A text in pieces. -/
abbrev Phrase := List Piece

namespace Piece

instance : Coe String Piece := ⟨words⟩

instance : Coe Int Piece := ⟨number⟩

/-- The text of a piece; an integer is written in decimal, with a minus sign if negative. -/
def text : Piece → String
  | words text => text
  | number value => toString value

/-- A piece is legible unless it is an integer too long to be written. -/
def legible : Piece → Bool
  | words _ => true
  | number value => decide (Numeral.Fits value)

end Piece

namespace Phrase

/-- The text of all pieces in a row. -/
def text (phrase : Phrase) : String :=
  String.join (phrase.map Piece.text)

/-- A phrase is legible when all its pieces are. -/
def legible (phrase : Phrase) : Bool :=
  phrase.all Piece.legible

/-- The text of a legible phrase. -/
def write (phrase : Phrase) : Except Numeral.Fault String :=
  if phrase.legible then .ok phrase.text else .error .unwritable

/-- The integers in a row, with the separator between any two of them. -/
def separated (separator : String) (numbers : List Int) : Phrase :=
  (numbers.map Piece.number).intersperse (Piece.words separator)

theorem legible_append (left right : Phrase) :
    legible (left ++ right) = (legible left && legible right) := by
  simp [legible]

theorem toList_text_append (left right : Phrase) :
    (text (left ++ right)).toList = (text left).toList ++ (text right).toList := by
  simp [text]

end Phrase

end DiceTower
