import DiceTower.Proofs.DigitRun
import DiceTower.Proofs.Wording

/-!
# Reading arithmetic

A text of arithmetic is made of decimal numerals, which may carry a minus sign, of `+`, `-` and `x`
between them, and of round and square brackets. It is read as usual: `x` binds tighter than the
other two, equals are taken from left to right, and an empty bracket counts as zero.

`Arithmetic.value?` reads such a text character by character. For each open bracket its reader holds
the terms that are complete, added up, and what the next operand is to be multiplied by; this is
enough, since a term is only added when it is known that no `x` follows.

`Expression` is the grammar of these texts as a type: an expression has a text and a value by its
structure. The main statement is `Arithmetic.value?_text`: what the reader makes of the text of an
expression is the value of the expression.
-/

namespace DiceTower.Arithmetic

open DiceTower.Text

/-! ## The reader -/

/-- The two kinds of brackets. -/
inductive Bracket where
  | round
  | square
deriving DecidableEq, Repr

/-- The operations between two operands. -/
inductive Operation where
  | plus
  | minus
  | times
deriving DecidableEq, Repr

/-- What has been read inside a bracket, or outside of all brackets. -/
structure Inside where
  /-- The complete terms, added up. -/
  sum : Int := 0
  /-- What the next operand is multiplied by. -/
  factor : Int := 1
deriving DecidableEq, Repr

/-- What a reader has just read. -/
inductive Place where
  /-- A bracket was opened. -/
  | opened
  /-- An operation, or nothing yet at all: an operand has to follow. -/
  | operation
  /-- The minus sign of a numeral. -/
  | sign
  /-- Digits of a numeral. -/
  | numeral (negative : Bool) (size : Nat)
  /-- A complete operand. -/
  | operand (value : Int)
deriving DecidableEq, Repr

/-- What is known of a text of arithmetic when a part of it has been read. -/
structure Reader where
  /-- The open brackets, the innermost first, each with what stands before it. -/
  outer : List (Bracket × Inside) := []
  inside : Inside := {}
  place : Place := .operation
deriving DecidableEq, Repr

namespace Place

/-- An operand may come next. -/
def awaits : Place → Bool
  | opened | operation => true
  | _ => false

/-- The operand that has just been read; a numeral may still go on. -/
def operand? : Place → Option Int
  | numeral negative size => some (if negative then -size else size)
  | operand value => some value
  | _ => none

end Place

/-- What has been read once an operation follows an operand. -/
def Inside.followed (inside : Inside) (value : Int) : Operation → Inside
  | .plus => ⟨inside.sum + inside.factor * value, 1⟩
  | .minus => ⟨inside.sum + inside.factor * value, -1⟩
  | .times => ⟨inside.sum, inside.factor * value⟩

namespace Reader

/-- The value of what has been read inside the innermost bracket. -/
def total? (reader : Reader) : Option Int :=
  reader.place.operand?.map fun value => reader.inside.sum + reader.inside.factor * value

def readDigit (reader : Reader) (digit : Nat) : Option Reader :=
  match reader.place with
  | .opened | .operation => some { reader with place := .numeral false digit }
  | .sign => some { reader with place := .numeral true digit }
  | .numeral negative size => some { reader with place := .numeral negative (10 * size + digit) }
  | .operand _ => none

/-- A blank ends a numeral and must not come between a minus sign and its digits. -/
def readBlank (reader : Reader) : Option Reader :=
  match reader.place with
  | .sign => none
  | .numeral negative size =>
    some { reader with place := .operand (if negative then -size else size) }
  | _ => some reader

def readOperation (reader : Reader) (operation : Operation) : Option Reader :=
  reader.place.operand?.map fun value =>
    { reader with inside := reader.inside.followed value operation, place := .operation }

/-- A minus is the sign of a numeral where an operand has to follow, and an operation elsewhere. -/
def readMinus (reader : Reader) : Option Reader :=
  if reader.place.awaits then some { reader with place := .sign } else reader.readOperation .minus

def readOpening (reader : Reader) (bracket : Bracket) : Option Reader :=
  if reader.place.awaits then
    some { outer := (bracket, reader.inside) :: reader.outer, place := .opened }
  else none

/-- A bracket with its inside is an operand; it has to be closed by its own kind. -/
def readClosing (reader : Reader) (bracket : Bracket) : Option Reader :=
  match reader.outer with
  | [] => none
  | (opened, inside) :: outer =>
    if opened ≠ bracket then none
    else if reader.place = .opened then some ⟨outer, inside, .operand 0⟩
    else reader.total?.map fun value => ⟨outer, inside, .operand value⟩

/-- Reads one more character. -/
def step (reader : Reader) (c : Char) : Option Reader :=
  match digit? c with
  | some digit => reader.readDigit digit
  | none =>
    match c with
    | ' ' => reader.readBlank
    | '+' => reader.readOperation .plus
    | '-' => reader.readMinus
    | 'x' => reader.readOperation .times
    | '(' => reader.readOpening .round
    | ')' => reader.readClosing .round
    | '[' => reader.readOpening .square
    | ']' => reader.readClosing .square
    | _ => none

/-- Reads some more characters. -/
def run (reader : Reader) (text : List Char) : Option Reader :=
  text.foldlM step reader

end Reader

/-- The value of a text of arithmetic, if it is one. All brackets have to be closed. -/
def value? (text : String) : Option Int :=
  (Reader.run {} text.toList).bind fun reader =>
    if reader.outer = [] then reader.total? else none

/-! ## Expressions -/

/-- What a part of a text can stand for: an operand of any operation, of `+` and `-`, or none. -/
inductive Rank where
  | operand
  | product
  | sum

/-- The texts of arithmetic, by their structure. -/
inductive Expression : Rank → Type where
  | number (value : Int) : Expression .operand
  | hollow (bracket : Bracket) : Expression .operand
  | group (bracket : Bracket) (inner : Expression .sum) : Expression .operand
  | single (operand : Expression .operand) : Expression .product
  | times (left : Expression .product) (right : Expression .operand) : Expression .product
  | term (product : Expression .product) : Expression .sum
  | plus (left : Expression .sum) (right : Expression .product) : Expression .sum
  | minus (left : Expression .sum) (right : Expression .product) : Expression .sum

namespace Bracket

/-- A square bracket keeps a blank from what it encloses. -/
def opening : Bracket → List Char
  | round => ['(']
  | square => ['[', ' ']

def closing : Bracket → List Char
  | round => [')']
  | square => [' ', ']']

end Bracket

/-- An operation, with blanks around it. -/
def Operation.chars : Operation → List Char
  | plus => [' ', '+', ' ']
  | minus => [' ', '-', ' ']
  | times => [' ', 'x', ' ']

namespace Expression

/-- The value of an expression. -/
def value {rank : Rank} : Expression rank → Int
  | number value => value
  | hollow _ => 0
  | group _ inner => inner.value
  | single operand => operand.value
  | times left right => left.value * right.value
  | term product => product.value
  | plus left right => left.value + right.value
  | minus left right => left.value - right.value

/-- The characters of an expression. -/
def chars {rank : Rank} : Expression rank → List Char
  | number value => (toString value).toList
  | hollow bracket => bracket.opening ++ bracket.closing
  | group bracket inner => bracket.opening ++ inner.chars ++ bracket.closing
  | single operand => operand.chars
  | times left right => left.chars ++ Operation.times.chars ++ right.chars
  | term product => product.chars
  | plus left right => left.chars ++ Operation.plus.chars ++ right.chars
  | minus left right => left.chars ++ Operation.minus.chars ++ right.chars

/-- The text of an expression. -/
def text (expression : Expression .sum) : String :=
  String.ofList expression.chars

/-- Products added up, one after the other. -/
def added (first : Expression .product) (others : List (Expression .product)) : Expression .sum :=
  others.foldl plus (term first)

theorem value_added (first : Expression .product) (others : List (Expression .product)) :
    (added first others).value = first.value + (others.map value).sum := by
  have folded : ∀ sum : Expression .sum,
      (others.foldl plus sum).value = sum.value + (others.map value).sum := by
    induction others with
    | nil => exact fun sum => (Int.add_zero _).symm
    | cons next others hypothesis =>
      intro sum
      rw [List.foldl_cons, hypothesis, value, List.map_cons, List.sum_cons, Int.add_assoc]
  exact folded (term first)

theorem chars_added (first : Expression .product) (others : List (Expression .product)) :
    (added first others).chars =
      first.chars ++ others.flatMap fun next => Operation.plus.chars ++ next.chars := by
  have folded : ∀ sum : Expression .sum, (others.foldl plus sum).chars =
      sum.chars ++ others.flatMap fun next => Operation.plus.chars ++ next.chars := by
    induction others with
    | nil => exact fun sum => (List.append_nil _).symm
    | cons next others hypothesis =>
      intro sum
      rw [List.foldl_cons, hypothesis, chars, List.flatMap_cons, List.append_assoc,
        List.append_assoc, List.append_assoc]
  exact folded (term first)

end Expression

/-! ## Reading expressions -/

namespace Reader

variable {reader : Reader} {value : Int}

theorem run_cons (c : Char) (text : List Char) :
    reader.run (c :: text) = (reader.step c).bind fun next => next.run text :=
  rfl

theorem run_append (front back : List Char) :
    reader.run (front ++ back) = (reader.run front).bind fun next => next.run back :=
  List.foldlM_append

theorem step_of_digit {c : Char} {digit : Nat} (found : digit? c = some digit) :
    reader.step c = reader.readDigit digit := by
  unfold step
  rw [found]

/-- Digits make the numeral longer. -/
theorem run_digits {digits : List Char} (all : AllDigits digits) (negative : Bool) (size : Nat) :
    ({ reader with place := .numeral negative size } : Reader).run digits =
      some { reader with
        place := .numeral negative
          (digits.foldl (fun sum digit => 10 * sum + digitValue digit) size) } := by
  induction digits generalizing size with
  | nil => rfl
  | cons digit digits hypothesis =>
    rcases List.forall_mem_cons.mp all with ⟨isDigit, others⟩
    rcases Option.isSome_iff_exists.mp isDigit with ⟨value, found⟩
    have known : digitValue digit = value := by rw [digitValue, found, Option.getD_some]
    rw [run_cons, step_of_digit found, readDigit]
    dsimp only
    rw [Option.bind_some, hypothesis others, List.foldl_cons, known]

/-- A numeral starts where an operand is awaited, or behind its sign. -/
theorem run_numeral {digits : List Char} (all : AllDigits digits) (some_digits : digits ≠ [])
    (negative : Bool)
    (starts : reader.place = .sign ∧ negative = true ∨
      reader.place.awaits = true ∧ negative = false) :
    reader.run digits = some { reader with place := .numeral negative (Numeral.value digits) } := by
  cases digits with
  | nil => exact absurd rfl some_digits
  | cons digit digits =>
    rcases List.forall_mem_cons.mp all with ⟨isDigit, others⟩
    rcases Option.isSome_iff_exists.mp isDigit with ⟨value, found⟩
    have known : digitValue digit = value := by rw [digitValue, found, Option.getD_some]
    have first : reader.readDigit value =
        some { reader with place := .numeral negative value } := by
      rcases starts with ⟨place, rfl⟩ | ⟨awaits, rfl⟩
      · rw [readDigit, place]
      · rw [readDigit]
        cases place : reader.place with
        | opened => rfl
        | operation => rfl
        | _ => rw [place] at awaits; cases awaits
    rw [run_cons, step_of_digit found, first, Option.bind_some, run_digits others, Numeral.value,
      List.foldl_cons, known, Nat.mul_zero, Nat.zero_add]

/-- The decimal writing of a number is read as an operand with that value. -/
theorem exists_run_number (awaits : reader.place.awaits = true) (n : Int) :
    ∃ place, reader.run (toString n).toList = some { reader with place } ∧
      place.operand? = some n := by
  cases n with
  | ofNat size =>
    refine ⟨.numeral false (Numeral.value (Nat.toDigits 10 size)), ?_, ?_⟩
    · rw [Int.ofNat_eq_natCast, Numeral.toList_toString_ofNat]
      exact run_numeral (Numeral.allDigits_toDigits size) Nat.toDigits_ne_nil false
        (.inr ⟨awaits, rfl⟩)
    · rw [Numeral.value_toDigits]
      rfl
  | negSucc size =>
    have sign : reader.step '-' = some { reader with place := .sign } := if_pos awaits
    refine ⟨.numeral true (Numeral.value (Nat.toDigits 10 (size + 1))), ?_, ?_⟩
    · rw [Numeral.toList_toString_negSucc, run_cons, sign, Option.bind_some]
      exact run_numeral (Numeral.allDigits_toDigits (size + 1)) Nat.toDigits_ne_nil true
        (.inl ⟨rfl, rfl⟩)
    · rw [Numeral.value_toDigits]
      rfl

/-- A blank completes the operand before it. -/
theorem step_blank (behind : reader.place.operand? = some value) :
    reader.step ' ' = some { reader with place := .operand value } := by
  have blank : reader.step ' ' = reader.readBlank := rfl
  rcases reader with ⟨outer, inside, place⟩
  rw [blank]
  cases place with
  | numeral negative size =>
    rw [← Option.some.inj behind]
    rfl
  | operand complete =>
    rw [← Option.some.inj behind]
    rfl
  | _ => cases behind

/-- Behind an operand an operation is read, and then an operand is awaited. -/
theorem run_operation (behind : reader.place.operand? = some value) (operation : Operation) :
    reader.run operation.chars = some { reader with
      inside := reader.inside.followed value operation, place := .operation } := by
  cases operation with
  | plus => rw [Operation.chars, run_cons, step_blank behind]; rfl
  | minus => rw [Operation.chars, run_cons, step_blank behind]; rfl
  | times => rw [Operation.chars, run_cons, step_blank behind]; rfl

/-- What stands right of an operation is read with what is left of it. -/
theorem run_operation_append {middle : Reader} {left : List Char}
    (first : reader.run left = some middle) (behind : middle.place.operand? = some value)
    (operation : Operation) (right : List Char) :
    reader.run (left ++ operation.chars ++ right) =
      ({ middle with inside := middle.inside.followed value operation, place := .operation } :
        Reader).run right := by
  rw [run_append, run_append, first, Option.bind_some, run_operation behind, Option.bind_some]

theorem run_opening (awaits : reader.place.awaits = true) (bracket : Bracket) :
    reader.run bracket.opening =
      some { outer := (bracket, reader.inside) :: reader.outer, place := .opened } := by
  cases bracket with
  | round =>
    have opened : reader.step '(' = reader.readOpening .round := rfl
    rw [Bracket.opening, run_cons, opened, readOpening, if_pos awaits]
    rfl
  | square =>
    have opened : reader.step '[' = reader.readOpening .square := rfl
    rw [Bracket.opening, run_cons, opened, readOpening, if_pos awaits]
    rfl

/-- A bracket is closed behind an operand; a blank before a square one completes it. -/
theorem run_closing {bracket : Bracket} {inside : Inside} {outer : List (Bracket × Inside)}
    (nested : reader.outer = (bracket, inside) :: outer) {last : Int}
    (behind : reader.place.operand? = some last)
    (total : reader.inside.sum + reader.inside.factor * last = value) :
    reader.run bracket.closing = some ⟨outer, inside, .operand value⟩ := by
  have closes : ∀ place : Place, place.operand? = some last →
      ({ reader with place } : Reader).readClosing bracket =
        some ⟨outer, inside, .operand value⟩ := by
    intro place ends
    have filled : place ≠ .opened := by
      rintro rfl
      cases ends
    rw [readClosing, nested]
    dsimp only
    rw [if_neg (not_not_intro rfl), if_neg filled, total?, ends, ← total]
    rfl
  cases bracket with
  | round =>
    have closing : reader.step ')' = reader.readClosing .round := rfl
    rw [Bracket.closing, run_cons, closing, closes reader.place behind]
    rfl
  | square =>
    have closing : ({ reader with place := .operand last } : Reader).step ']' =
        ({ reader with place := .operand last } : Reader).readClosing .square := rfl
    rw [Bracket.closing, run_cons, step_blank behind, Option.bind_some, run_cons, closing,
      closes (.operand last) rfl]
    rfl

/-- An empty bracket is read as zero. -/
theorem run_hollow (awaits : reader.place.awaits = true) (bracket : Bracket) :
    reader.run (bracket.opening ++ bracket.closing) =
      some { reader with place := .operand 0 } := by
  rw [run_append, run_opening awaits, Option.bind_some]
  cases bracket with
  | round => rfl
  | square => rfl

end Reader

/-- What reading an expression of some rank comes to. An operand changes nothing inside its
bracket; a product goes into the factor, but for its last operand; a sum that is all there is
inside its bracket is the total there. -/
def Reader.Moved (reader after : Reader) (value : Int) : Rank → Prop
  | .operand => after.inside = reader.inside ∧ after.place.operand? = some value
  | .product =>
    after.inside.sum = reader.inside.sum ∧
      ∃ last, after.place.operand? = some last ∧
        after.inside.factor * last = reader.inside.factor * value
  | .sum =>
    ∃ last, after.place.operand? = some last ∧
      (reader.inside = {} → after.inside.sum + after.inside.factor * last = value)

/-- Where an operand is awaited, an expression is read as its value. -/
theorem Expression.exists_run_chars {rank : Rank} (expression : Expression rank) (reader : Reader)
    (awaits : reader.place.awaits = true) :
    ∃ after, reader.run expression.chars = some after ∧ after.outer = reader.outer ∧
      reader.Moved after expression.value rank := by
  induction expression generalizing reader with
  | number value =>
    rcases Reader.exists_run_number awaits value with ⟨place, runs, ends⟩
    exact ⟨_, runs, rfl, rfl, ends⟩
  | hollow bracket => exact ⟨_, Reader.run_hollow awaits bracket, rfl, rfl, rfl⟩
  | group bracket inner hypothesis =>
    have opened := Reader.run_opening awaits bracket
    rcases hypothesis ⟨(bracket, reader.inside) :: reader.outer, {}, .opened⟩ rfl with
      ⟨after, runs, outer, last, ends, total⟩
    have closed := Reader.run_closing outer ends (total rfl)
    refine ⟨{ reader with place := .operand inner.value }, ?_, rfl, rfl, rfl⟩
    rw [chars, List.append_assoc, Reader.run_append, opened, Option.bind_some, Reader.run_append,
      runs, Option.bind_some, closed]
  | single operand hypothesis =>
    rcases hypothesis reader awaits with ⟨after, runs, outer, inside, ends⟩
    refine ⟨after, runs, outer, ?_, _, ends, ?_⟩
    · rw [inside]
    · rw [inside, value]
  | times left right hypothesisLeft hypothesisRight =>
    rcases hypothesisLeft reader awaits with ⟨middle, runs, outer, sum, last, ends, factor⟩
    rcases hypothesisRight ⟨middle.outer, middle.inside.followed last .times, .operation⟩ rfl with
      ⟨after, runsOn, outerOn, inside, endsOn⟩
    refine ⟨after, ?_, outerOn.trans outer, ?_, _, endsOn, ?_⟩
    · rw [chars, Reader.run_operation_append runs ends, runsOn]
    · rw [inside, ← sum]
      rfl
    · rw [inside, value, ← Int.mul_assoc, ← factor]
      rfl
  | term product hypothesis =>
    rcases hypothesis reader awaits with ⟨after, runs, outer, sum, last, ends, factor⟩
    refine ⟨after, runs, outer, last, ends, fun fresh => ?_⟩
    rw [sum, factor, fresh, value, Int.zero_add, Int.one_mul]
  | plus left right hypothesisLeft hypothesisRight =>
    rcases hypothesisLeft reader awaits with ⟨middle, runs, outer, last, ends, total⟩
    rcases hypothesisRight ⟨middle.outer, middle.inside.followed last .plus, .operation⟩ rfl with
      ⟨after, runsOn, outerOn, sum, lastOn, endsOn, factor⟩
    refine ⟨after, ?_, outerOn.trans outer, lastOn, endsOn, fun fresh => ?_⟩
    · rw [chars, Reader.run_operation_append runs ends, runsOn]
    · rw [sum, factor, value, ← total fresh]
      dsimp only [Inside.followed]
      rw [Int.one_mul]
  | minus left right hypothesisLeft hypothesisRight =>
    rcases hypothesisLeft reader awaits with ⟨middle, runs, outer, last, ends, total⟩
    rcases hypothesisRight ⟨middle.outer, middle.inside.followed last .minus, .operation⟩ rfl with
      ⟨after, runsOn, outerOn, sum, lastOn, endsOn, factor⟩
    refine ⟨after, ?_, outerOn.trans outer, lastOn, endsOn, fun fresh => ?_⟩
    · rw [chars, Reader.run_operation_append runs ends, runsOn]
    · rw [sum, factor, value, ← total fresh]
      dsimp only [Inside.followed]
      rw [Int.neg_one_mul, Int.sub_eq_add_neg]

/-- The text of an expression is read as the value of the expression. -/
theorem value?_text (expression : Expression .sum) :
    value? expression.text = some expression.value := by
  rcases expression.exists_run_chars {} rfl with ⟨after, runs, outer, last, ends, total⟩
  rw [value?, Expression.text, String.toList_ofList, runs, Option.bind_some, if_pos outer,
    Reader.total?, ends, Option.map_some, total rfl]

example : value? "2 - -3 x (4 + [  ]) x 2 - 1" = some 25 := by
  decide +kernel

end DiceTower.Arithmetic
