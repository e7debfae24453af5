import DiceTower.Journal.Template.Conversion

/-!
# Message templates

A message may have arguments. Its text is then a template, in which each placeholder stands for the
next argument, or for the one of its name if the argument is a record. `fill` puts the arguments in
place of the placeholders. Each of several arguments must be used, but a single record or list need
not be. A message without arguments is no template.
-/

namespace DiceTower.Journal.Template

/-- The arguments of a template. -/
inductive Arguments where
  /-- Values that are taken in order. -/
  | several (values : List Value)
  /-- A value that is there once. -/
  | single (value : Value)

namespace Arguments

/-- The arguments of a call: a record that is the only one, and is not empty, is a single one. -/
def ofCall : List Value → Arguments
  | [.record fields] => if fields.isEmpty then several [.record fields] else single (.record fields)
  | values => several values

/-- The arguments that a value stands for that is not void: the only item of a list is taken as the
argument of a call is, and any other list, and a text, as a single one. -/
def ofValue : Value → Except Fault Arguments
  | .text value => .ok (single (.text value))
  | .list [.record fields] =>
    .ok (single (if fields.isEmpty then .list [.record fields] else .record fields))
  | .list items => .ok (single (.list items))
  | .record [_] => .error .noFirstItem
  | .record fields => .ok (single (.record fields))
  | value => .error (.noLength value.typeName)

end Arguments

/-- What placeholders draw on. -/
structure Supply where
  /-- Where names are looked up. -/
  named : Option Value
  /-- The values that are still to be taken. -/
  left : List Value

/-- What is there before the first placeholder. -/
def Arguments.supply : Arguments → Supply
  | several values => ⟨none, values⟩
  | single (.record fields) => ⟨some (.record fields), [.record fields]⟩
  | single (.list items) => ⟨some (.list items), [.list items]⟩
  | single value => ⟨none, [value]⟩

/-- The greatest width. -/
def greatestWidth : Nat := Nat.pow 2 63 - 1

/-- The greatest precision. -/
def greatestPrecision : Nat := Nat.pow 2 31 - 1

namespace Supply

/-- The next value, and what is there after it. -/
def take (supply : Supply) : Except Fault (Value × Supply) :=
  match supply.left with
  | value :: left => .ok (value, { supply with left })
  | [] => .error .tooFewArguments

/-- What is there behind a name: its value, once. -/
def choose (supply : Supply) (name : Name) : Except Fault Supply :=
  match supply.named, name with
  | none, _ => .error .notRecord
  | some _, .unclosed => .error .unfinishedName
  | some (.record fields), .closed name =>
    match Record.get? fields name with
    | some value => .ok { supply with left := [value] }
    | none => .error (.noSuchName name)
  | some _, .closed _ => .error .notNamed

/-- The next value as a width or precision between two bounds. -/
def takeMeasure (supply : Supply) (bound : Nat) (fault : Fault) : Except Fault (Int × Supply) := do
  let (value, supply) ← supply.take
  match value with
  | .bool value => return (if value then 1 else 0, supply)
  | .int value =>
    if -(bound : Int) - 1 ≤ value ∧ value ≤ bound then return (value, supply) else throw fault
  | _ => throw .measureNotInteger

/-- The width a placeholder asks for. One that is below zero means the left side. -/
def takeWidth (supply : Supply) : Option Measure → Except Fault (Int × Supply)
  | none => .ok (0, supply)
  | some (.fixed size) =>
    if size ≤ greatestWidth then .ok (size, supply) else .error .widthTooBig
  | some .given => supply.takeMeasure greatestWidth .givenWidthTooBig

/-- The precision a placeholder asks for. One that is below zero means zero. -/
def takePrecision (supply : Supply) : Option Measure → Except Fault (Option Nat × Supply)
  | none => .ok (none, supply)
  | some (.fixed size) =>
    if size ≤ greatestPrecision then .ok (some size, supply) else .error .precisionTooBig
  | some .given => do
    let (size, supply) ← supply.takeMeasure greatestPrecision .givenPrecisionTooBig
    return (some size.toNat, supply)

end Supply

/-! ## Filling -/

/-- The text for a placeholder that ends at a place, and what is left. The parts of the placeholder
are looked at in the order in which they stand. -/
def Placeholder.fill (placeholder : Placeholder) (place : Nat) (supply : Supply) :
    Except Fault (String × Supply) := do
  let supply ←
    match placeholder.name with
    | some name => supply.choose name
    | none => pure supply
  let (width, supply) ← supply.takeWidth placeholder.width
  let (precision, supply) ← supply.takePrecision placeholder.precision
  match placeholder.letter with
  | none => throw .unfinished
  | some letter =>
    let (value, supply) ← supply.take
    match Conversion.ofLetter? letter with
    | none => throw (.unknownLetter letter place)
    | some conversion =>
      let flags := placeholder.flags
      let form : Form :=
        ⟨{ flags with left := flags.left || width < 0 }, width.natAbs, precision⟩
      return (← conversion.write letter form value, supply)

/-- The text of some pieces, and what is left. -/
def fillPieces : List Piece → Supply → Except Fault (String × Supply)
  | [], supply => .ok ("", supply)
  | .char c :: rest, supply => do
    let (others, supply) ← fillPieces rest supply
    return (String.singleton c ++ others, supply)
  | .placeholder placeholder place :: rest, supply => do
    let (words, supply) ← placeholder.fill place supply
    let (others, supply) ← fillPieces rest supply
    return (words ++ others, supply)

/-- The message of a template and its arguments. -/
def fillWith (template : String) (arguments : Arguments) : Except Fault String := do
  let (text, supply) ← fillPieces (pieces 0 0 template.toList) arguments.supply
  if supply.left.isEmpty || supply.named.isSome then
    return text
  else
    throw .tooManyArguments

/-- The message of a template and the arguments of a call. Without arguments the text is no
template. -/
def fill (template : String) (arguments : List Value) : Except Fault String :=
  if arguments.isEmpty then .ok template else fillWith template (.ofCall arguments)

end DiceTower.Journal.Template
