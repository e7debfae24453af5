import DiceTower.Proofs.ExecutionSteps
import DiceTower.Proofs.KeepClauses
import DiceTower.Proofs.Stripping

/-!
# The plain spelling of a text

The plain spelling of a text has ASCII digits in place of those of other scripts, and small letters
in place of capitals and of the Kelvin sign (`Text.plain`). Every class of characters that is asked
about holds a character just if it holds its plain spelling, and a digit keeps its value
(`Text.digit?_plain`, `Text.inClass_plain`). So each step of the reader does the same with both
spellings of a text: the scanner finds the same tokens, spelled plainly
(`Lexeme.map_token_scan_plain`), and the same envelope comes off (`Envelope.split_plain`).

The main statement is `Command.read_respelled`.
-/

namespace DiceTower

open DiceTower.Text

namespace Text

/-! ## Plain characters -/

/-- The characters that have a small form: the capitals of ASCII, and the Kelvin sign. -/
def capitals : List Char :=
  ['A', 'B', 'C', 'D', 'E', 'F', 'G', 'H', 'I', 'J', 'K', 'L', 'M', 'N', 'O', 'P', 'Q', 'R', 'S',
    'T', 'U', 'V', 'W', 'X', 'Y', 'Z', '\u212a']

/-- A character in its plain spelling: the ASCII digit of the same value for a digit of any script,
and the small form of a capital of ASCII and of the Kelvin sign. -/
def plain (c : Char) : Char :=
  match digit? c with
  | some value => Nat.digitChar value
  | none => if c = '\u212a' then 'k' else c.toLower

variable {c : Char}

theorem digit?_digitChar {value : Nat} (small : value < 10) :
    digit? (Nat.digitChar value) = some value := by
  have low : 0x0030 + value < 0x0660 := by omega
  have range : 0x0030 ≤ 0x0030 + value ∧ 0x0030 + value < 0x003A := by omega
  simp only [digit?, Nat.toNat_digitChar_of_lt_ten small]
  rw [if_pos low, if_pos range, Nat.add_sub_cancel_left]

theorem plain_of_digit? {value : Nat} (digit : digit? c = some value) :
    plain c = Nat.digitChar value := by
  rw [plain, digit]

theorem plain_eq_self (noDigit : digit? c = none) (noCapital : c ∉ capitals) : plain c = c := by
  have noKelvin : c ≠ '\u212a' := fun same => noCapital (by rw [same]; decide)
  have noLetter : ¬ (c.val ≥ 'A'.val ∧ c.val ≤ 'Z'.val) := by
    rintro ⟨above, below⟩
    have among : ∀ code < 91, 65 ≤ code → Char.ofNat code ∈ capitals := by decide
    apply noCapital
    rw [← Char.ofNat_toNat c]
    exact among c.toNat (Nat.lt_succ_of_le below) above
  rw [plain, noDigit]
  dsimp only
  exact (if_neg noKelvin).trans (dif_neg noLetter)

/-- What tells no digits of the same value apart and no capital from its small form cannot tell any
two spellings apart. -/
theorem apply_plain {α : Type} [BEq α] [LawfulBEq α] {ask : Char → α}
    (onDigits : ∀ c value, digit? c = some value → ask (Nat.digitChar value) = ask c)
    (onCapitals : (capitals.all fun c => ask (plain c) == ask c) = true) (c : Char) :
    ask (plain c) = ask c := by
  cases digit : digit? c with
  | some value =>
    rw [plain_of_digit? digit]
    exact onDigits c value digit
  | none =>
    by_cases capital : c ∈ capitals
    · exact beq_iff_eq.mp (List.all_eq_true.mp onCapitals c capital)
    · rw [plain_eq_self digit capital]

@[simp]
theorem digit?_plain (c : Char) : digit? (plain c) = digit? c := by
  refine apply_plain (fun c value digit => ?_) (by decide) c
  rw [digit, digit?_digitChar (digit?_lt_ten digit)]

@[simp]
theorem isDigit_plain (c : Char) : isDigit (plain c) = isDigit c := by
  rw [isDigit, isDigit, digit?_plain]

@[simp]
theorem digitValue_plain (c : Char) : digitValue (plain c) = digitValue c := by
  rw [digitValue, digitValue, digit?_plain]

/-- A class without digits that holds both cases of its letters does not depend on the spelling. -/
theorem inClass_plain {inClass : Char → Bool}
    (noDigit : ∀ {c}, inClass c = true → isDigit c = false)
    (onCapitals : (capitals.all fun c => inClass (plain c) == inClass c) = true) (c : Char) :
    inClass (plain c) = inClass c := by
  have off : ∀ {c value}, digit? c = some value → inClass c = false := by
    intro c value digit
    rw [Bool.eq_false_iff]
    intro isIn
    have none := noDigit isIn
    rw [isDigit, digit] at none
    cases none
  refine apply_plain (fun c value digit => ?_) onCapitals c
  rw [off digit, off (digit?_digitChar (digit?_lt_ten digit))]

@[simp]
theorem isBlank_plain (c : Char) : isBlank (plain c) = isBlank c :=
  inClass_plain isDigit_eq_false_of_isBlank (by decide) c

@[simp]
theorem isDieLetter_plain (c : Char) : isDieLetter (plain c) = isDieLetter c :=
  inClass_plain isDigit_eq_false_of_isDieLetter (by decide) c

@[simp]
theorem isTimesLetter_plain (c : Char) : isTimesLetter (plain c) = isTimesLetter c :=
  inClass_plain isDigit_eq_false_of_isTimesLetter (by decide) c

@[simp]
theorem isKeepLetter_plain (c : Char) : isKeepLetter (plain c) = isKeepLetter c := by
  refine inClass_plain (fun {c} isIn => ?_) (by decide) c
  have letters : c ∈ ['k', 'K', '\u212a'] := by simpa [isKeepLetter, or_assoc] using isIn
  exact eq_false_of_mem letters rfl

@[simp]
theorem isLowestLetter_plain (c : Char) : isLowestLetter (plain c) = isLowestLetter c := by
  refine inClass_plain (fun isIn => ?_) (by decide) c
  exact eq_false_of_mem (mem_of_flag (by rw [isIn, Bool.true_or])) rfl

@[simp]
theorem isHighestLetter_plain (c : Char) : isHighestLetter (plain c) = isHighestLetter c := by
  refine inClass_plain (fun isIn => ?_) (by decide) c
  exact eq_false_of_mem (mem_of_flag (by rw [isIn, Bool.or_true])) rfl

/-- The marks of the notation, and the line break. -/
def marks : List Char :=
  ['(', ')', '+', '-', '\n']

variable {mark : Char}

/-- A mark is spelled in one way only. -/
theorem plain_beq (isMark : mark ∈ marks) (c : Char) : (plain c == mark) = (c == mark) := by
  have onCapitals : (marks.all fun mark =>
      capitals.all fun c => (plain c == mark) == (c == mark)) = true := by
    decide
  have noDigit : ∀ {c : Char}, (c == mark) = true → isDigit c = false := by
    intro c same
    rw [beq_iff_eq.mp same]
    exact eq_false_of_mem isMark rfl
  exact inClass_plain noDigit (List.all_eq_true.mp onCapitals mark isMark) c

theorem plain_eq_iff (isMark : mark ∈ marks) : plain c = mark ↔ c = mark := by
  rw [← beq_iff_eq, plain_beq isMark, beq_iff_eq]

/-! ## Plain texts -/

theorem dropWhile_plain (text : List Char) :
    (text.map plain).dropWhile isBlank = (text.dropWhile isBlank).map plain := by
  rw [List.dropWhile_map, show isBlank ∘ plain = isBlank from funext isBlank_plain]

theorem strip_plain (text : List Char) : strip (text.map plain) = (strip text).map plain := by
  simp only [strip, trimBy, dropWhile_plain, ← List.map_reverse]

theorem allBlank_plain (text : List Char) : allBlank (text.map plain) = allBlank text := by
  rw [allBlank, List.all_map, show isBlank ∘ plain = isBlank from funext isBlank_plain]
  rfl

theorem allDigits_plain {text : List Char} : AllDigits (text.map plain) ↔ AllDigits text := by
  simp [AllDigits]

/-- What a text starts with is in a class if it is so in the plain spelling. -/
theorem forall_head?_plain {ok : Char → Prop} (same : ∀ c, ok (plain c) ↔ ok c)
    (text : List Char) : (∀ c ∈ (text.map plain).head?, ok c) ↔ ∀ c ∈ text.head?, ok c := by
  cases text with
  | nil => exact Iff.rfl
  | cons head rest => simp [same]

end Text

theorem Numeral.read_plain (digits : List Char) : read (digits.map plain) = read digits := by
  have value : value (digits.map plain) = value digits := by
    simp [Numeral.value, List.foldl_map]
  rw [read, value, List.length_map]
  rfl

theorem breaks_plain {rest : List Char} : Breaks (rest.map plain) ↔ Breaks rest :=
  forall_head?_plain (fun c => by rw [isDigit_plain, isDieLetter_plain]) rest

namespace Token

/-! ## Plain tokens -/

/-- A token in its plain spelling. -/
def respell : Token → Token
  | dice times faces => dice (times.map plain) (faces.map plain)
  | keep kept => keep (kept.map plain)
  | select flag => select (plain flag)
  | multiplier factor => multiplier (factor.map plain)
  | modifier sign gap amount => modifier (plain sign) (gap.map plain) (amount.map plain)

variable {token : Token} {text : List Char}

@[simp]
theorem width_respell (token : Token) : token.respell.width = token.width := by
  cases token <;> simp [respell, width]

theorem plain_sign (c : Char) :
    (plain c == '+' || plain c == '-') = (c == '+' || c == '-') := by
  rw [plain_beq (by decide), plain_beq (by decide)]

/-- The plain spelling of a writing of a token writes the token in its plain spelling. -/
theorem Spells.plain (spells : token.Spells text) : token.respell.Spells (text.map plain) := by
  cases spells with
  | dice timesDigits die facesDigits =>
    rw [List.map_append, List.map_cons]
    exact .dice (allDigits_plain.mpr timesDigits) (by rw [isDieLetter_plain, die])
      (allDigits_plain.mpr facesDigits)
  | keep isKeep digits nonempty =>
    rw [List.map_cons, List.map_cons, List.map_append]
    exact .keep (by rw [isKeepLetter_plain, isKeep]) (allDigits_plain.mpr digits)
      (by rw [ne_eq, List.map_eq_nil_iff]; exact nonempty)
  | select extreme =>
    exact .select (by rw [isLowestLetter_plain, isHighestLetter_plain, extreme])
  | multiplier times digits nonempty =>
    exact .multiplier (by rw [isTimesLetter_plain, times]) (allDigits_plain.mpr digits)
      (by rw [ne_eq, List.map_eq_nil_iff]; exact nonempty)
  | modifier signed blanks digits nonempty =>
    rw [List.map_cons, List.map_append]
    exact .modifier (by rw [plain_sign, signed]) (by rw [allBlank_plain, blanks])
      (allDigits_plain.mpr digits) (by rw [ne_eq, List.map_eq_nil_iff]; exact nonempty)

/-- Whatever the plain spelling of a text writes, the text writes in a spelling of its own. -/
theorem exists_spells_of_plain (spells : token.Spells (text.map plain)) :
    ∃ original : Token, original.Spells text ∧ original.respell = token := by
  generalize whole : text.map Text.plain = written at spells
  cases spells with
  | @dice times faces letter timesDigits die facesDigits =>
    obtain ⟨times, rest, rfl, rfl, restPlain⟩ := List.map_eq_append_iff.mp whole
    obtain ⟨letter, faces, rfl, rfl, rfl⟩ := List.map_eq_cons_iff.mp restPlain
    rw [isDieLetter_plain] at die
    exact ⟨.dice times faces,
      .dice (allDigits_plain.mp timesDigits) die (allDigits_plain.mp facesDigits), rfl⟩
  | @keep kept letter isKeep digits nonempty =>
    obtain ⟨opening, rest, rfl, isOpening, restPlain⟩ := List.map_eq_cons_iff.mp whole
    obtain ⟨letter, rest, rfl, rfl, keptPlain⟩ := List.map_eq_cons_iff.mp restPlain
    obtain ⟨kept, closing, rfl, rfl, closingPlain⟩ := List.map_eq_append_iff.mp keptPlain
    obtain ⟨closing, rfl, isClosing⟩ := List.map_eq_singleton_iff.mp closingPlain
    obtain rfl := (plain_eq_iff (by decide)).mp isOpening
    obtain rfl := (plain_eq_iff (by decide)).mp isClosing
    rw [isKeepLetter_plain] at isKeep
    rw [ne_eq, List.map_eq_nil_iff] at nonempty
    exact ⟨.keep kept, .keep isKeep (allDigits_plain.mp digits) nonempty, rfl⟩
  | @select flag extreme =>
    obtain ⟨minus, rest, rfl, isMinus, restPlain⟩ := List.map_eq_cons_iff.mp whole
    obtain ⟨flag, rfl, rfl⟩ := List.map_eq_singleton_iff.mp restPlain
    obtain rfl := (plain_eq_iff (by decide)).mp isMinus
    rw [isLowestLetter_plain, isHighestLetter_plain] at extreme
    exact ⟨.select flag, .select extreme, rfl⟩
  | @multiplier factor letter times digits nonempty =>
    obtain ⟨letter, factor, rfl, rfl, rfl⟩ := List.map_eq_cons_iff.mp whole
    rw [isTimesLetter_plain] at times
    rw [ne_eq, List.map_eq_nil_iff] at nonempty
    exact ⟨.multiplier factor, .multiplier times (allDigits_plain.mp digits) nonempty, rfl⟩
  | @modifier sign gap amount signed blanks digits nonempty =>
    obtain ⟨sign, rest, rfl, rfl, restPlain⟩ := List.map_eq_cons_iff.mp whole
    obtain ⟨gap, amount, rfl, rfl, rfl⟩ := List.map_eq_append_iff.mp restPlain
    rw [plain_sign] at signed
    rw [allBlank_plain] at blanks
    rw [ne_eq, List.map_eq_nil_iff] at nonempty
    exact ⟨.modifier sign gap amount,
      .modifier signed blanks (allDigits_plain.mp digits) nonempty, rfl⟩

theorem leftBy_plain {after : List Char} :
    token.respell.LeftBy (after.map plain) ↔ token.LeftBy after := by
  cases token with
  | dice times faces => exact forall_head?_plain (fun c => by rw [isDigit_plain]) after
  | keep kept => exact Iff.rfl
  | select flag => exact Iff.rfl
  | multiplier factor => exact breaks_plain
  | modifier sign gap amount => exact breaks_plain

/-- The first token of a text in its plain spelling. -/
theorem first?_plain (text : List Char) : first? (text.map plain) = (first? text).map respell := by
  -- A token is found if it is written there, so it is enough to respell writings.
  ext token
  rw [first?_eq_some_iff, Option.map_eq_some_iff]
  constructor
  · rintro ⟨spelled, after, whole, spells, left⟩
    obtain ⟨spelled, after, rfl, rfl, rfl⟩ := List.map_eq_append_iff.mp whole
    obtain ⟨original, written, rfl⟩ := exists_spells_of_plain spells
    exact ⟨original, first?_eq_some_iff.mpr ⟨spelled, after, rfl, written, leftBy_plain.mp left⟩,
      rfl⟩
  · rintro ⟨original, found, rfl⟩
    obtain ⟨spelled, after, rfl, spells, left⟩ := first?_eq_some_iff.mp found
    exact ⟨spelled.map plain, after.map plain, List.map_append, spells.plain, leftBy_plain.mpr left⟩

end Token

namespace Lexeme

/-- The scanner goes over both spellings of a text in the same steps. -/
theorem map_token_scanFrom_plain (inside position : Nat) (text : List Char) :
    (scanFrom inside position (text.map plain)).map token =
      ((scanFrom inside position text).map token).map Token.respell := by
  induction text generalizing inside position with
  | nil => rw [List.map_nil, scanFrom_nil, List.map_nil, List.map_nil]
  | cons head rest hypothesis =>
    cases inside with
    | succ inside => exact hypothesis inside (position + 1)
    | zero =>
      have first := Token.first?_plain (head :: rest)
      rw [List.map_cons] at first ⊢
      rw [scanFrom, scanFrom, first]
      cases Token.first? (head :: rest) with
      | none => exact hypothesis 0 (position + 1)
      | some found =>
        dsimp only [Option.map_some]
        rw [List.map_cons, List.map_cons, List.map_cons, Token.width_respell, hypothesis]

theorem map_token_scan_plain (text : List Char) :
    (scan (text.map plain)).map token = ((scan text).map token).map Token.respell :=
  map_token_scanFrom_plain 0 0 text

end Lexeme

namespace Draft

theorem add_respell (draft : Draft) (token : Token) :
    add draft token.respell = add draft token := by
  have settled : ∀ held digits, settle held (digits.map plain) = settle held digits := by
    intro held digits
    rw [settle, Numeral.read_plain]
    rfl
  cases token with
  | dice times faces => simp only [Token.respell, add, settled]
  | keep kept => simp only [Token.respell, add, settled]
  | select flag => simp only [Token.respell, add, isHighestLetter_plain]
  | multiplier factor => simp only [Token.respell, add, settled]
  | modifier sign gap amount =>
    have minus : (plain sign == '-') = (sign == '-') := plain_beq (by decide) sign
    simp only [Token.respell, add, Numeral.read_plain, minus]

theorem gather_respell (tokens : List Token) :
    gather (tokens.map Token.respell) = gather tokens := by
  rw [gather, List.foldlM_map]
  simp only [add_respell]
  rfl

end Draft

namespace Envelope

/-! ## Plain envelopes -/

/-- An envelope with its parts in their plain spelling. -/
def respell (envelope : Envelope) : Envelope :=
  ⟨envelope.body.map plain, envelope.count.map plain⟩

variable {mark : Char}

theorem getLast?_plain_beq (isMark : mark ∈ marks) (text : List Char) :
    ((text.map plain).getLast? == some mark) = (text.getLast? == some mark) := by
  rw [List.getLast?_map]
  cases text.getLast? with
  | none => rfl
  | some last => exact plain_beq isMark last

theorem count_plain (isMark : mark ∈ marks) (text : List Char) :
    (text.map plain).count mark = text.count mark := by
  have same : (· == mark) ∘ plain = (· == mark) := funext (plain_beq isMark)
  change (text.map plain).countP (· == mark) = text.countP (· == mark)
  rw [List.countP_map, same]

theorem unclosed_plain (body : List Char) :
    unclosed (body.map plain) = (unclosed body).map plain := by
  unfold unclosed
  rw [getLast?_plain_beq (by decide), count_plain (by decide), count_plain (by decide)]
  split
  · exact List.map_dropLast.symm
  · rfl

theorem map_plain_eq_newline_iff {text : List Char} :
    text.map plain = ['\n'] ↔ text = ['\n'] := by
  rw [List.map_eq_singleton_iff]
  constructor
  · rintro ⟨c, rfl, same⟩
    rw [(plain_eq_iff (by decide)).mp same]
  · rintro rfl
    exact ⟨'\n', rfl, rfl⟩

theorem leading?_plain (text : List Char) :
    leading? (text.map plain) = (leading? text).map respell := by
  ext envelope
  rw [leading?_eq_some_iff, Option.map_eq_some_iff]
  constructor
  · rintro ⟨letter, rest, digits, nonempty, times, whole, body⟩
    obtain ⟨count, more, rfl, counted, behindCount⟩ := List.map_eq_append_iff.mp whole
    obtain ⟨letter, more, rfl, rfl, behindLetter⟩ := List.map_eq_cons_iff.mp behindCount
    obtain ⟨opening, rest, rfl, isOpening, rfl⟩ := List.map_eq_cons_iff.mp behindLetter
    obtain rfl := (plain_eq_iff (by decide)).mp isOpening
    rw [← counted] at digits nonempty
    rw [isTimesLetter_plain] at times
    refine ⟨⟨unclosed rest, count⟩, leading?_eq_some_iff.mpr ⟨letter, rest,
      allDigits_plain.mp digits, List.map_eq_nil_iff.not.mp nonempty, times, rfl, rfl⟩, ?_⟩
    rw [respell, ← unclosed_plain, counted, ← body]
  · rintro ⟨original, found, rfl⟩
    obtain ⟨letter, rest, digits, nonempty, times, rfl, body⟩ := leading?_eq_some_iff.mp found
    refine ⟨plain letter, rest.map plain, allDigits_plain.mpr digits,
      List.map_eq_nil_iff.not.mpr nonempty, ?_, ?_, ?_⟩
    · rw [isTimesLetter_plain, times]
    · rw [List.map_append, List.map_cons, List.map_cons]
      rfl
    · rw [respell, body, unclosed_plain]

theorem trailing?_plain (text : List Char) :
    trailing? (text.map plain) = (trailing? text).map respell := by
  ext envelope
  rw [trailing?_eq_some_iff, Option.map_eq_some_iff]
  constructor
  · rintro ⟨letter, ending, digits, nonempty, times, newline, whole⟩
    obtain ⟨opening, more, rfl, isOpening, behindOpening⟩ := List.map_eq_cons_iff.mp whole
    obtain ⟨body, more, rfl, bodied, behindBody⟩ := List.map_eq_append_iff.mp behindOpening
    obtain ⟨closing, more, rfl, isClosing, behindClosing⟩ := List.map_eq_cons_iff.mp behindBody
    obtain ⟨letter, more, rfl, rfl, behindLetter⟩ := List.map_eq_cons_iff.mp behindClosing
    obtain ⟨count, ending, rfl, counted, rfl⟩ := List.map_eq_append_iff.mp behindLetter
    obtain rfl := (plain_eq_iff (by decide)).mp isOpening
    obtain rfl := (plain_eq_iff (by decide)).mp isClosing
    rw [← counted] at digits nonempty
    rw [isTimesLetter_plain] at times
    rw [List.map_eq_nil_iff, map_plain_eq_newline_iff] at newline
    refine ⟨⟨body, count⟩, trailing?_eq_some_iff.mpr ⟨letter, ending, allDigits_plain.mp digits,
      List.map_eq_nil_iff.not.mp nonempty, times, newline, rfl⟩, ?_⟩
    rw [respell, bodied, counted]
  · rintro ⟨original, found, rfl⟩
    obtain ⟨letter, ending, digits, nonempty, times, newline, rfl⟩ :=
      trailing?_eq_some_iff.mp found
    refine ⟨plain letter, ending.map plain, allDigits_plain.mpr digits,
      List.map_eq_nil_iff.not.mpr nonempty, ?_, ?_, ?_⟩
    · rw [isTimesLetter_plain, times]
    · rw [List.map_eq_nil_iff, map_plain_eq_newline_iff]
      exact newline
    · simp only [List.map_append, List.map_cons]
      rfl

/-- The same envelope comes off both spellings of a text. -/
theorem split_plain (text : List Char) : split (text.map plain) = (split text).respell := by
  rw [split, split, leading?_plain, trailing?_plain]
  cases leading? text with
  | some envelope => rfl
  | none =>
    cases trailing? text with
    | some envelope => rfl
    | none => rfl

end Envelope

namespace Command

/-! ## Reading both spellings -/

theorem readText_plain (text : List Char) : readText (text.map plain) = readText text := by
  rw [readText, strip_plain, Envelope.split_plain]
  dsimp only [Envelope.respell]
  rw [Numeral.read_plain, Lexeme.map_token_scan_plain, Draft.gather_respell]
  rfl

theorem isBlank_plain (text : String) : isBlank (some (text.map plain)) = isBlank (some text) := by
  rw [isBlank, isBlank, Option.all_some, Option.all_some, String.toList_map, allBlank_plain]

/-- Blanks around a text make no difference, and neither does its spelling: its plain spelling
reads as the same command, or has the same fault. -/
theorem read_respelled (text : String) {before after : String}
    (blanksBefore : allBlank before.toList = true) (blanksAfter : allBlank after.toList = true)
    (fallback : String) :
    read (some (before ++ text ++ after)) fallback = read (some text) fallback ∧
      read (some (text.map plain)) fallback = read (some text) fallback := by
  have around : (before ++ text ++ after).toList =
      before.toList ++ (text.toList ++ after.toList) := by
    rw [String.toList_append, String.toList_append, List.append_assoc]
  have sameBlank : isBlank (some (before ++ text ++ after)) = isBlank (some text) := by
    rw [isBlank, isBlank, Option.all_some, Option.all_some, around, allBlank_append,
      allBlank_append, blanksBefore, blanksAfter, Bool.and_true, Bool.true_and]
  cases blank : isBlank (some text) with
  | true =>
    have fallen : ∀ {other : String}, isBlank (some other) = true →
        read (some other) fallback = read (some text) fallback := by
      intro other otherBlank
      rw [read, read, textOr, textOr, if_pos otherBlank, if_pos blank]
    exact ⟨fallen (sameBlank.trans blank), fallen ((isBlank_plain text).trans blank)⟩
  | false =>
    rw [read_of_not_blank blank, read_of_not_blank (sameBlank.trans blank),
      read_of_not_blank ((isBlank_plain text).trans blank), around, String.toList_map,
      readText_plain]
    refine ⟨?_, rfl⟩
    rw [readText, readText, strip_blanks blanksBefore blanksAfter]

/-- Digits of two scripts, capitals and the Kelvin sign, with blanks of several kinds around. -/
theorem read_respelled_of_mixed_spelling :
    let before := "\u2003\t"
    let text := "\u0663X(4D\u0666(\u212a\u0662)-H+ \u06f1)"
    let after := " \n"
    let command : Command := ⟨4, 6, some 2, false, true, 1, 1, 3⟩
    allBlank before.toList = true ∧ allBlank after.toList = true ∧
      text.map plain = "3x(4d6(k2)-h+ 1)" ∧
      read (some (before ++ text ++ after)) usual = .ok command ∧
      read (some "3x(4d6(k2)-h+ 1)") usual = .ok command := by
  intro before text after command
  have blanksBefore : allBlank before.toList = true := by decide
  have blanksAfter : allBlank after.toList = true := by decide
  have plainText : text.map plain = "3x(4d6(k2)-h+ 1)" := by
    rw [← String.toList_inj, String.toList_map]
    decide
  have alone : read (some text) usual = .ok command := by decide +kernel
  obtain ⟨around, respelled⟩ := read_respelled text blanksBefore blanksAfter usual
  rw [plainText] at respelled
  exact ⟨blanksBefore, blanksAfter, plainText, around.trans alone, respelled.trans alone⟩

end Command

end DiceTower
