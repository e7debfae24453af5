/-!
# Blank characters

A command may be surrounded by blanks, and a modifier may hold blanks between its sign and its
amount. `isBlank` is the class of blank characters: the Unicode white space together with the four
information separators. `strip` drops the blanks at both ends of a text; `allBlank` says that
nothing else is there.
-/

namespace DiceTower.Text

/-- The blank characters: tab to carriage return, the information separators, space, the next-line
and no-break spaces, and the spaces and separators of the general punctuation block and its
neighbours. Zero-width characters are not blank. -/
def isBlank (c : Char) : Bool :=
  let n := c.toNat
  (9 ≤ n && n ≤ 13) || (28 ≤ n && n ≤ 32) || n == 0x85 || n == 0xA0 || n == 0x1680 ||
    (0x2000 ≤ n && n ≤ 0x200A) || n == 0x2028 || n == 0x2029 || n == 0x202F || n == 0x205F ||
    n == 0x3000

/-- A text of blanks only; the empty text is one. -/
def allBlank (text : List Char) : Bool :=
  text.all isBlank

/-- The text without the characters of a class at its two ends. -/
def trimBy (drop : Char → Bool) (text : List Char) : List Char :=
  ((text.dropWhile drop).reverse.dropWhile drop).reverse

/-- The text without the blanks at its two ends. -/
def strip (text : List Char) : List Char :=
  trimBy isBlank text

end DiceTower.Text
