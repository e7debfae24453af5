import DiceTower.Proofs.ExecutionSteps
import DiceTower.Proofs.KeepClauses
import DiceTower.Proofs.Pipeline
import DiceTower.Proofs.Stripping

/-!
# Envelopes of one kind and the other

A body that opens as many parentheses as it closes can be put in an envelope in three ways: with the
count in front, with or without the closing parenthesis, and with the count behind. All three come
to the same body, up to blanks, and the same count, so they read alike
(`Command.readText_closed`, `Command.readText_unclosed`, `Command.readText_trailing`).

The main statement is `Command.read_enveloped`. It also says what the envelope adds to a body that
is in none of its own (`Envelope.Enveloped`): the number of rounds.
-/

namespace DiceTower

open DiceTower.Text

namespace Envelope

/-! ## Texts in envelopes -/

/-- The text is an envelope around something; in front the closing parenthesis may be missing. -/
def Enveloped (text : List Char) : Prop :=
  ∃ count letter body, AllDigits count ∧ count ≠ [] ∧ isTimesLetter letter = true ∧
    (text = count ++ letter :: '(' :: body ∨ text = '(' :: (body ++ ')' :: letter :: count))

/-- A text without blanks at its ends is all body just if there is no envelope. -/
theorem split_eq_iff {text : List Char} (solid : Solid text) :
    split text = ⟨text, []⟩ ↔ ¬ Enveloped text := by
  constructor
  · rintro whole ⟨count, letter, body, digits, some, times, rfl | rfl⟩
    · rw [split, leading?_append body digits some times] at whole
      exact some (congrArg Envelope.count whole)
    · rw [split_trailing body digits some times] at whole
      exact some (congrArg Envelope.count whole)
  · intro bare
    have noLeading : leading? text = none := by
      rw [Option.eq_none_iff_forall_ne_some]
      intro envelope found
      obtain ⟨letter, body, digits, some, times, whole, -⟩ := leading?_eq_some_iff.mp found
      exact bare ⟨_, letter, body, digits, some, times, .inl whole⟩
    have noTrailing : trailing? text = none := by
      rw [Option.eq_none_iff_forall_ne_some]
      intro envelope found
      obtain ⟨letter, ending, digits, some, times, newline, whole⟩ :=
        trailing?_eq_some_iff.mp found
      obtain rfl : ending = [] := by
        rcases newline with rfl | rfl
        · rfl
        · have blank : allBlank ['\n'] = true := rfl
          have shape : text = ('(' :: (envelope.body ++ ')' :: letter :: envelope.count)) ++
            ['\n'] := by simp [whole]
          rw [shape] at solid
          exact solid.eq_nil_of_append blank
      rw [List.append_nil] at whole
      exact bare ⟨_, letter, _, digits, some, times, .inr whole⟩
    rw [split, noLeading, noTrailing]
    rfl

/-- A body that does not need the closing parenthesis keeps all its own. -/
theorem split_unclosed {count body : List Char} {letter : Char} (digits : AllDigits count)
    (some : count ≠ []) (times : isTimesLetter letter = true) (balanced : Balanced body) :
    split (count ++ letter :: '(' :: body) = ⟨body, count⟩ := by
  have kept : unclosed body = body := by
    unfold Balanced at balanced
    simp [unclosed, balanced]
  rw [split, leading?_append body digits some times, kept]
  rfl

end Envelope

theorem Balanced.of_append_blanks {body blanks : List Char} (blank : allBlank blanks = true)
    (balanced : Balanced (body ++ blanks)) : Balanced body := by
  have free : ∀ {c : Char}, isBlank c = false → c ∉ blanks := by
    intro c noBlank member
    rw [List.all_eq_true.mp blank c member] at noBlank
    cases noBlank
  unfold Balanced at balanced ⊢
  rw [List.count_append, List.count_append, List.count_eq_zero_of_not_mem (free rfl),
    List.count_eq_zero_of_not_mem (free rfl)] at balanced
  exact balanced

namespace Command

/-! ## Bodies and counts -/

/-- Reads the tokens of a body that is rolled as often as the digits say. -/
def readBody (count : List Char) (tokens : List Token) : Except Numeral.Fault Command := do
  let rounds ← Numeral.read count
  let draft ← Draft.gather tokens
  return draft.command rounds

theorem readText_of_split {text body count : List Char}
    (split : Envelope.split (strip text) = ⟨body, count⟩) :
    readText text = readBody count ((Lexeme.scan body).map Lexeme.token) := by
  rw [readText, split]
  rfl

/-- The count of a body decides on the number of rounds and on nothing else. -/
theorem exists_readBody_nil {count : List Char} {tokens : List Token} {command : Command}
    (reads : readBody count tokens = .ok command) :
    ∃ alone, readBody [] tokens = .ok alone ∧
      command = { alone with
        rounds := if Numeral.value count = 0 then 1 else (Numeral.value count : Int) } := by
  obtain ⟨rounds, counted, reads⟩ := Pipeline.bind_eq_ok_iff.mp reads
  obtain ⟨draft, gathered, same⟩ := Pipeline.bind_eq_ok_iff.mp reads
  obtain ⟨-, rfl⟩ := Numeral.read_eq_ok_iff.mp counted
  cases same
  refine ⟨draft.command 0, ?_, rfl⟩
  rw [readBody, Pipeline.bind_of_ok Numeral.read_nil, Pipeline.bind_of_ok gathered]
  rfl

/-! ## The three forms -/

section Forms

variable {count body : List Char} {letter : Char} (digits : AllDigits count) (nonempty : count ≠ [])
  (times : isTimesLetter letter = true)

include digits nonempty times

theorem readText_closed (balanced : Balanced body) :
    readText (count ++ letter :: '(' :: (body ++ [')'])) =
      readBody count ((Lexeme.scan body).map Lexeme.token) := by
  have shape : count ++ letter :: '(' :: (body ++ [')']) =
      count ++ ((letter :: '(' :: body) ++ [')']) := rfl
  have solid : Solid (count ++ letter :: '(' :: (body ++ [')'])) := by
    rw [shape]
    exact (digits.solid nonempty).between _ (.singleton rfl)
  apply readText_of_split
  rw [solid.strip_eq]
  exact Envelope.split_leading digits nonempty times balanced

theorem readText_trailing :
    readText ('(' :: (body ++ ')' :: letter :: count)) =
      readBody count ((Lexeme.scan body).map Lexeme.token) := by
  have shape : '(' :: (body ++ ')' :: letter :: count) =
      ['('] ++ ((body ++ [')', letter]) ++ count) := by simp
  have solid : Solid ('(' :: (body ++ ')' :: letter :: count)) := by
    rw [shape]
    exact Solid.between (.singleton rfl) _ (digits.solid nonempty)
  apply readText_of_split
  rw [solid.strip_eq]
  exact Envelope.split_trailing body digits nonempty times

/-- Without the closing parenthesis blanks at the end of the body are stripped, which changes no
token of it. -/
theorem readText_unclosed (balanced : Balanced body) :
    readText (count ++ letter :: '(' :: body) =
      readBody count ((Lexeme.scan body).map Lexeme.token) := by
  have opens : Solid (count ++ [letter, '(']) :=
    (digits.solid nonempty).between [letter] (.singleton rfl)
  obtain ⟨outer, front, back, outer', -, blanks, nothing, rfl, stripped⟩ :=
    exists_strip_around opens [] body
  obtain ⟨rfl, rfl⟩ := List.append_eq_nil_iff.mp nothing.symm
  rw [List.nil_append, List.nil_append, List.append_assoc, List.append_assoc] at stripped
  have split : Envelope.split (strip (count ++ letter :: '(' :: (back ++ outer'))) =
      ⟨back, count⟩ := by
    refine (congrArg Envelope.split stripped).trans ?_
    exact Envelope.split_unclosed digits nonempty times (balanced.of_append_blanks blanks)
  have none : allBlank [] = true := rfl
  have tokens := Lexeme.map_token_scan_blanks none blanks back
  rw [List.nil_append] at tokens
  rw [readText_of_split split, tokens]

end Forms

/-- A body in no envelope is read by its tokens, with blanks at its ends or without. -/
theorem readText_bare {body : List Char} (nonempty : strip body ≠ [])
    (bare : ¬ Envelope.Enveloped (strip body)) :
    readText body = readBody [] ((Lexeme.scan body).map Lexeme.token) := by
  have split := (Envelope.split_eq_iff (solid_strip nonempty)).mpr bare
  rw [readText_of_split split, Lexeme.map_token_scan_strip]

/-- A body that opens as many parentheses as it closes reads the same in an envelope with the count
in front, closed or not, as in one with the count behind. If the body stands in no envelope itself,
the envelope only says how often to roll what the body reads as. -/
theorem read_enveloped {count body : String} (digits : AllDigits count.toList)
    (nonempty : count ≠ "") (balanced : Balanced body.toList) (fallback : String) :
    let closed := read (some (count ++ "x(" ++ body ++ ")")) fallback
    read (some (count ++ "x(" ++ body)) fallback = closed ∧
      read (some ("(" ++ body ++ ")x" ++ count)) fallback = closed ∧
      ∀ command, closed = .ok command → isBlank (some body) = false →
        ¬ Envelope.Enveloped (strip body.toList) →
          ∃ alone, read (some body) fallback = .ok alone ∧ command = { alone with
            rounds := if Numeral.value count.toList = 0 then 1
              else (Numeral.value count.toList : Int) } := by
  intro closed
  have nonempty : count.toList ≠ [] := fun nothing => nonempty (String.toList_eq_nil_iff.mp nothing)
  have times : isTimesLetter 'x' = true := rfl
  let result := (readBody count.toList ((Lexeme.scan body.toList).map Lexeme.token)).mapError
    Failure.numeral
  have reads : ∀ {text : String} {form : List Char}, text.toList = form →
      allBlank form = false → readText form =
        readBody count.toList ((Lexeme.scan body.toList).map Lexeme.token) →
      read (some text) fallback = result := by
    rintro text _ rfl solid formRead
    rw [read_of_not_blank solid, formRead]
  have front := (digits.solid nonempty).allBlank_eq_false []
  have closedRead : closed = result := reads (by simp)
    (front ('x' :: '(' :: (body.toList ++ [')'])))
    (readText_closed digits nonempty times balanced)
  have unclosedRead : read (some (count ++ "x(" ++ body)) fallback = result :=
    reads (by simp) (front ('x' :: '(' :: body.toList))
      (readText_unclosed digits nonempty times balanced)
  have trailingRead : read (some ("(" ++ body ++ ")x" ++ count)) fallback = result :=
    reads (by simp) (by simp [allBlank, show Text.isBlank '(' = false from rfl])
      (readText_trailing digits nonempty times)
  rw [closedRead]
  refine ⟨unclosedRead, trailingRead, fun command bodyRead solid bare => ?_⟩
  obtain ⟨alone, aloneRead, same⟩ := exists_readBody_nil (Pipeline.mapError_eq_ok_iff.mp bodyRead)
  refine ⟨alone, ?_, same⟩
  have stripped : strip body.toList ≠ [] := by
    rw [ne_eq, strip_eq_nil_iff, Bool.not_eq_true]
    exact solid
  rw [read_of_not_blank solid, readText_bare stripped bare]
  exact Pipeline.mapError_eq_ok_iff.mpr aloneRead

/-- The body starts with a closing parenthesis and ends with an opening one and a blank. -/
theorem read_enveloped_of_crossed_parentheses :
    let body := ")4d6-L(k2)( "
    AllDigits "03".toList ∧ "03" ≠ "" ∧ Balanced body.toList ∧
      isBlank (some body) = false ∧ ¬ Envelope.Enveloped (strip body.toList) ∧
      read (some "03x()4d6-L(k2)( ") usual = read (some "03x()4d6-L(k2)( )") usual ∧
      read (some "()4d6-L(k2)( )x03") usual = read (some "03x()4d6-L(k2)( )") usual ∧
      ∃ alone, read (some body) usual = .ok alone ∧
        read (some "03x()4d6-L(k2)( )") usual = .ok { alone with rounds := 3 } := by
  intro body
  have digits : AllDigits "03".toList := by decide
  have balanced : Balanced body.toList := by decide
  have bare : ¬ Envelope.Enveloped (strip body.toList) := by
    rw [← Envelope.split_eq_iff (solid_strip (by decide))]
    decide
  have closedRead : read (some "03x()4d6-L(k2)( )") usual =
      .ok { times := 4, faces := 6, keep := some 2, lowest := true, rounds := 3 } := by
    decide +kernel
  obtain ⟨unclosed, trailing, around⟩ := read_enveloped digits (by decide) balanced usual
  obtain ⟨alone, aloneRead, same⟩ := around _ closedRead (by decide) bare
  refine ⟨digits, by decide, balanced, by decide, bare, unclosed, trailing, alone, aloneRead, ?_⟩
  rw [closedRead, same]
  rfl

end Command

end DiceTower
