import DiceTower.Record
import DiceTower.Text.Blank

/-!
# Environment files

An environment file holds one assignment `name=value` per line. A line may start with the word
`export`, and a number sign starts a comment. A value in quotes may go over several lines and holds
escapes; any other value ends before a comment, without the blanks around it. A line of any other
shape is passed over.

A value may refer to another name by a dollar sign and braces, with a fallback behind a colon and a
minus sign. A reference means the value the file has given so far, and otherwise the one of the
environment.

`EnvFile.read` gives the names with their values. A name without an equals sign has none, but it
takes the place of an earlier value.
-/

namespace DiceTower.Settings.EnvFile

open DiceTower.Text

/-- A blank that does not end a line. -/
def isInlineBlank (c : Char) : Bool :=
  isBlank c && c != '\n'

/-- The text with all line ends in one form. -/
def unifyLines : List Char → List Char
  | '\r' :: '\n' :: rest => '\n' :: unifyLines rest
  | '\r' :: rest => '\n' :: unifyLines rest
  | c :: rest => c :: unifyLines rest
  | [] => []

/-! ## Values -/

/-- The character of single quotes. -/
def apostrophe : Char := '\x27'

/-- The text up to the quote that ends it, and what follows. A character after a backslash never
ends the text. -/
def closing? (quote : Char) : List Char → Option (List Char × List Char)
  | [] => none
  | '\\' :: c :: rest =>
    (closing? quote rest).map fun (inner, after) => ('\\' :: c :: inner, after)
  | c :: rest =>
    if c = quote then some ([], rest)
    else (closing? quote rest).map fun (inner, after) => (c :: inner, after)

/-- The escapes of single quotes: the letter after the backslash and what it stands for. -/
def singleEscapes : List (Char × Char) :=
  [('\\', '\\'), (apostrophe, apostrophe)]

/-- The escapes of double quotes. -/
def doubleEscapes : List (Char × Char) :=
  singleEscapes ++
    [('"', '"'), ('a', '\x07'), ('b', '\x08'), ('f', '\x0c'), ('n', '\n'), ('r', '\r'),
      ('t', '\t'), ('v', '\x0b')]

/-- The text with its escapes replaced; a backslash before any other letter stays. -/
def unescape (escapes : List (Char × Char)) : List Char → List Char
  | [] => []
  | '\\' :: c :: rest =>
    match escapes.lookup c with
    | some meant => meant :: unescape escapes rest
    | none => '\\' :: unescape escapes (c :: rest)
  | c :: rest => c :: unescape escapes rest

/-- The text before a comment, which starts at a number sign after a blank. -/
def uncommented : (afterBlank : Bool) → List Char → List Char
  | _, [] => []
  | afterBlank, c :: rest =>
    if afterBlank && c == '#' then [] else c :: uncommented (isBlank c) rest

/-- A text without the blanks at its end. -/
def trimEnd (text : List Char) : List Char :=
  (text.reverse.dropWhile isBlank).reverse

/-- A value without quotes: the rest of its line, less a comment and the blanks at the end. -/
def bare (text : List Char) : List Char × List Char :=
  (trimEnd (uncommented false (text.takeWhile (· != '\n'))), text.dropWhile (· != '\n'))

/-- The value a text starts with, and what follows; there is none if a quote is not closed. -/
def value? : List Char → Option (List Char × List Char)
  | [] => some ([], [])
  | quote :: rest =>
    if quote = apostrophe then
      (closing? quote rest).map fun (inner, after) => (unescape singleEscapes inner, after)
    else if quote = '"' then
      (closing? quote rest).map fun (inner, after) => (unescape doubleEscapes inner, after)
    else
      some (bare (quote :: rest))

/-! ## Lines -/

/-- A name with its value, if it has one. -/
abbrev Assignment := List Char × Option (List Char)

/-- The text after the word `export` and the blanks behind it. -/
def afterExport : List Char → List Char
  | 'e' :: 'x' :: 'p' :: 'o' :: 'r' :: 't' :: c :: rest =>
    if isInlineBlank c then rest.dropWhile isInlineBlank
    else 'e' :: 'x' :: 'p' :: 'o' :: 'r' :: 't' :: c :: rest
  | text => text

/-- The characters of a name without quotes. -/
def isNameChar (c : Char) : Bool :=
  c != '=' && c != '#' && !isBlank c

/-- The name a text starts with, and what follows. A comment has no name. -/
def name? : List Char → Option (Option (List Char) × List Char)
  | [] => none
  | c :: rest =>
    if c = '#' then some (none, c :: rest)
    else if c = apostrophe then
      match rest.takeWhile (· != apostrophe), rest.dropWhile (· != apostrophe) with
      | [], _ => none
      | _, [] => none
      | name, _ :: after => some (some name, after)
    else
      match (c :: rest).takeWhile isNameChar with
      | [] => none
      | name => some (some name, (c :: rest).dropWhile isNameChar)

/-- The text after a comment, up to the end of the line. -/
def afterComment (text : List Char) : List Char :=
  match text.dropWhile isInlineBlank with
  | '#' :: rest => rest.dropWhile (· != '\n')
  | _ => text

/-- The text after the end of a line, if only blanks come before it. -/
def afterLine? (text : List Char) : Option (List Char) :=
  match text.dropWhile isInlineBlank with
  | [] => some []
  | '\n' :: rest => some rest
  | _ => none

/-- The text from the next line on. -/
def nextLine (text : List Char) : List Char :=
  (text.dropWhile (· != '\n')).drop 1

/-- The assignment after a name, and what follows; or, if there is none, the place from which the
rest of the line is passed over. A value that starts with a number sign is a comment if a blank
stands before it. -/
def assigned (text : List Char) : Except (List Char) (Option (List Char) × List Char) :=
  match text.dropWhile isInlineBlank with
  | '=' :: rest =>
    let text := rest.dropWhile isInlineBlank
    if text.head? = some '#' ∧ text.length < rest.length then
      .ok (some [], text)
    else match value? text with
    | some (value, after) => .ok (some value, after)
    | none => .error text
  | text => .ok (none, text)

/-- The assignment of the line a text starts with, if it has the shape of one, and the text from
the next line on. -/
def line (text : List Char) : Option Assignment × List Char :=
  let text := afterExport text
  match name? text with
  | none => (none, nextLine text)
  | some (name, text) =>
    match assigned text with
    | .error text => (none, nextLine text)
    | .ok (value, text) =>
      let text := afterComment text
      match afterLine? text with
      | none => (none, nextLine text)
      | some rest => (name.map (·, value), rest)

/-- The assignments of a text in order. -/
def assignments (text : List Char) : List Assignment :=
  match text.dropWhile isBlank with
  | [] => []
  | head :: rest =>
    let (assignment, left) := line (head :: rest)
    if left.length < text.length then
      assignment.toList ++ assignments left
    else
      assignment.toList
termination_by text.length

/-! ## References -/

/-- A reference to a name, with what it means if the name is not there, and its width. -/
structure Reference where
  name : List Char
  fallback : List Char
  width : Nat

/-- The reference a text starts with. -/
def reference? : List Char → Option Reference
  | '$' :: '\x7b' :: rest =>
    let name := rest.takeWhile fun c => c != '\x7d' && c != ':'
    match rest.drop name.length with
    | '\x7d' :: _ => some ⟨name, [], name.length + 3⟩
    | ':' :: '-' :: rest =>
      let fallback := rest.takeWhile (· != '\x7d')
      if fallback.length < rest.length then
        some ⟨name, fallback, name.length + fallback.length + 5⟩
      else
        none
    | _ => none
  | _ => none

/-- The text with its references replaced, when `inside` characters of it still belong to an
earlier one. A name that is there without a value means the empty text. -/
def expand (lookup : String → Option (Option String)) : (inside : Nat) → List Char → List Char
  | _, [] => []
  | inside + 1, _ :: rest => expand lookup inside rest
  | 0, c :: rest =>
    match reference? (c :: rest) with
    | none => c :: expand lookup 0 rest
    | some reference =>
      let meant :=
        match lookup (String.ofList reference.name) with
        | some value => (value.getD "").toList
        | none => reference.fallback
      meant ++ expand lookup (reference.width - 1) rest

/-- What a name means after some assignments, and otherwise in the environment. -/
def meaning (environment : List (String × String)) (given : Record (Option String))
    (name : String) : Option (Option String) :=
  (given.get? name).or ((environment.lookup name).map some)

/-- The names a file gives after one more assignment. -/
def assign (environment : List (String × String)) (given : Record (Option String))
    (assignment : Assignment) : Record (Option String) :=
  given.put (String.ofList assignment.1)
    (assignment.2.map fun value =>
      String.ofList (expand (meaning environment given) 0 value))

/-- The names that a file gives, each with its last value. -/
def read (environment : List (String × String)) (text : String) : Record (Option String) :=
  (assignments (unifyLines text.toList)).foldl (assign environment) []

end DiceTower.Settings.EnvFile
