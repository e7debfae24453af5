/-!
# Occurrences of a text

`occurs` says whether a text stands somewhere in another one.
-/

namespace DiceTower.Text

/-- A text stands somewhere in another one. -/
def occurs (part : List Char) : List Char → Bool
  | [] => part.isEmpty
  | c :: rest => part.isPrefixOf (c :: rest) || occurs part rest

end DiceTower.Text
