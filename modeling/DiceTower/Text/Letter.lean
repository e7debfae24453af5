/-!
# Letters of the notation

The letters of a command are read in either case. Each class below holds the two cases of one
letter; the keep letter also has the Kelvin sign, whose small form is `k`.
-/

namespace DiceTower.Text

/-- The letter between the number of dice and the number of faces. -/
def isDieLetter (c : Char) : Bool :=
  c == 'd' || c == 'D'

/-- The letter of a keep clause, with the Kelvin sign. -/
def isKeepLetter (c : Char) : Bool :=
  c == 'k' || c == 'K' || c == '\u212a'

/-- The letter before a multiplier, and between a repeat count and its parentheses. -/
def isTimesLetter (c : Char) : Bool :=
  c == 'x' || c == 'X'

/-- The letter that selects the lowest roll. -/
def isLowestLetter (c : Char) : Bool :=
  c == 'l' || c == 'L'

/-- The letter that selects the highest roll. -/
def isHighestLetter (c : Char) : Bool :=
  c == 'h' || c == 'H'

end DiceTower.Text
