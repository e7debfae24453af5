import DiceTower.Lexeme
import DiceTower.Proofs.Characters

/-!
# The texts of tokens

`Token.Spells` says which texts write a token, and `Spells` which texts write a row of tokens with
nothing between them. The scanner agrees with both: at a text that writes a token it finds that
token, whatever follows, as long as this leaves the last number alone (`Token.first?_append`); so
over the text of a row it finds the row (`Lexeme.map_token_scan`).
-/

namespace DiceTower

open DiceTower.Text

/-- A text that leaves a number in front of it alone: it starts with neither a digit nor the
letter of dice. -/
def Breaks (rest : List Char) : Prop :=
  ∀ c ∈ rest.head?, isDigit c = false ∧ isDieLetter c = false

theorem Breaks.nil : Breaks [] := by
  intro c head
  cases head

theorem Breaks.cons {head : Char} {rest : List Char} (noDigit : isDigit head = false)
    (noDie : isDieLetter head = false) : Breaks (head :: rest) := by
  intro c member
  cases member
  exact ⟨noDigit, noDie⟩

theorem Breaks.append {front : List Char} (breaks : Breaks front) (nonempty : front ≠ [])
    (back : List Char) : Breaks (front ++ back) := by
  unfold Breaks
  rw [List.head?_append_of_ne_nil _ nonempty]
  exact breaks

namespace Token

/-- The texts that write a token. -/
inductive Spells : Token → List Char → Prop
  | dice {times faces : List Char} {letter : Char} (timesDigits : AllDigits times)
      (die : isDieLetter letter = true) (facesDigits : AllDigits faces) :
    Spells (.dice times faces) (times ++ letter :: faces)
  | keep {kept : List Char} {letter : Char} (isKeep : isKeepLetter letter = true)
      (digits : AllDigits kept) (nonempty : kept ≠ []) :
    Spells (.keep kept) ('(' :: letter :: (kept ++ [')']))
  | select {flag : Char} (extreme : (isLowestLetter flag || isHighestLetter flag) = true) :
    Spells (.select flag) ['-', flag]
  | multiplier {factor : List Char} {letter : Char} (times : isTimesLetter letter = true)
      (digits : AllDigits factor) (nonempty : factor ≠ []) :
    Spells (.multiplier factor) (letter :: factor)
  | modifier {sign : Char} {gap amount : List Char} (signed : (sign == '+' || sign == '-') = true)
      (blanks : allBlank gap = true) (digits : AllDigits amount) (nonempty : amount ≠ []) :
    Spells (.modifier sign gap amount) (sign :: (gap ++ amount))

theorem Spells.length_eq {token : Token} {text : List Char} (spells : token.Spells text) :
    text.length = token.width := by
  cases spells <;> simp [width] <;> omega

theorem Spells.ne_nil {token : Token} {text : List Char} (spells : token.Spells text) :
    text ≠ [] := by
  cases spells <;> simp

/-! ## The kinds of tokens at the start of a text -/

theorem dice?_cons_eq_none {head : Char} (rest : List Char) (noDigit : isDigit head = false)
    (noDie : isDieLetter head = false) : dice? (head :: rest) = none := by
  have span : spanDigits (head :: rest) = ([], head :: rest) := by
    simp [spanDigits, noDigit]
  simp [dice?, span, noDie]

theorem keep?_cons_eq_none {head : Char} (rest : List Char) (other : head ≠ '(') :
    keep? (head :: rest) = none := by
  unfold keep?
  split
  · rename_i same
    exact absurd (List.cons.inj same).1 other
  · rfl

theorem select?_cons_eq_none {head : Char} (rest : List Char)
    (other : head ≠ '-' ∨ ∀ c ∈ rest.head?, (isLowestLetter c || isHighestLetter c) = false) :
    select? (head :: rest) = none := by
  unfold select?
  split
  · rename_i flag tail same
    obtain ⟨rfl, rfl⟩ := List.cons.inj same
    rcases other with other | other
    · exact absurd rfl other
    · rw [other flag rfl]
      rfl
  · rfl

theorem multiplier?_cons_eq_none {head : Char} (rest : List Char)
    (other : isTimesLetter head = false) : multiplier? (head :: rest) = none := by
  simp [multiplier?, other]

/-- A run of digits that nothing continues is a whole number. -/
theorem wholeNumber?_append {digits rest : List Char} (all : AllDigits digits)
    (nonempty : digits ≠ []) (breaks : Breaks rest) :
    wholeNumber? (digits ++ rest) = some digits := by
  have span : spanDigits (digits ++ rest) = (digits, rest) :=
    spanDigits_append_of_allDigits all fun c head => (breaks c head).1
  have noDie : rest.head?.any isDieLetter = false := by
    rw [Option.any_eq_false]
    intro c head
    simp [(breaks c head).2]
  simp [wholeNumber?, span, noDie, nonempty]

theorem dice?_append {times faces rest : List Char} {letter : Char} (timesDigits : AllDigits times)
    (die : isDieLetter letter = true) (facesDigits : AllDigits faces) (breaks : Breaks rest) :
    dice? (times ++ letter :: (faces ++ rest)) = some (.dice times faces) := by
  have outer : spanDigits (times ++ letter :: (faces ++ rest)) =
      (times, letter :: (faces ++ rest)) := by
    apply spanDigits_append_of_allDigits timesDigits
    intro c head
    cases head
    exact isDigit_eq_false_of_isDieLetter die
  have inner : spanDigits (faces ++ rest) = (faces, rest) :=
    spanDigits_append_of_allDigits facesDigits fun c head => (breaks c head).1
  simp [dice?, outer, inner, die]

theorem keep?_append {kept : List Char} (rest : List Char) {letter : Char}
    (isKeep : isKeepLetter letter = true) (digits : AllDigits kept) (nonempty : kept ≠ []) :
    keep? ('(' :: letter :: (kept ++ ')' :: rest)) = some (.keep kept) := by
  have span : spanDigits (kept ++ ')' :: rest) = (kept, ')' :: rest) := by
    apply spanDigits_append_of_allDigits digits
    intro c head
    cases head
    rfl
  simp [keep?, span, isKeep, nonempty]

/-- The blanks between a sign and its amount end where the amount starts. -/
theorem takeWhile_dropWhile_gap {gap amount : List Char} (rest : List Char)
    (blanks : allBlank gap = true) (digits : AllDigits amount) (nonempty : amount ≠ []) :
    (gap ++ (amount ++ rest)).takeWhile isBlank = gap ∧
      (gap ++ (amount ++ rest)).dropWhile isBlank = amount ++ rest := by
  apply takeWhile_dropWhile_append (List.all_eq_true.mp blanks)
  obtain ⟨digit, others, rfl⟩ := List.exists_cons_of_ne_nil nonempty
  intro c head
  cases head
  exact isBlank_eq_false_of_isDigit (digits digit List.mem_cons_self)

theorem modifier?_append {gap amount rest : List Char} {sign : Char}
    (signed : (sign == '+' || sign == '-') = true) (blanks : allBlank gap = true)
    (digits : AllDigits amount) (nonempty : amount ≠ []) (breaks : Breaks rest) :
    modifier? (sign :: (gap ++ (amount ++ rest))) = some (.modifier sign gap amount) := by
  obtain ⟨taken, left⟩ := takeWhile_dropWhile_gap rest blanks digits nonempty
  rw [modifier?, if_pos signed, taken, left, wholeNumber?_append digits nonempty breaks]
  rfl

/-- The sign of a modifier selects nothing: a blank or a digit comes after it. -/
theorem select?_sign_eq_none {gap amount : List Char} (sign : Char) (rest : List Char)
    (blanks : allBlank gap = true) (digits : AllDigits amount) (nonempty : amount ≠ []) :
    select? (sign :: (gap ++ (amount ++ rest))) = none := by
  have noFlag : ∀ {inClass : Char → Bool} {c : Char}, inClass c = true →
      inClass 'l' = false → inClass 'L' = false → inClass 'h' = false → inClass 'H' = false →
      (isLowestLetter c || isHighestLetter c) = false := by
    intro inClass c isIn smallL bigL smallH bigH
    simp only [isLowestLetter, isHighestLetter, Bool.or_eq_false_iff, beq_eq_false_iff_ne]
    exact ⟨⟨ne_of_class isIn smallL, ne_of_class isIn bigL⟩,
      ne_of_class isIn smallH, ne_of_class isIn bigH⟩
  refine select?_cons_eq_none _ (.inr ?_)
  intro c head
  cases gap with
  | nil =>
    obtain ⟨digit, others, rfl⟩ := List.exists_cons_of_ne_nil nonempty
    cases head
    exact noFlag (digits c List.mem_cons_self) rfl rfl rfl rfl
  | cons blank blanksAfter =>
    cases head
    exact noFlag (List.all_eq_true.mp blanks c List.mem_cons_self) rfl rfl rfl rfl

/-- At a text that writes a token the token is found, if what follows leaves its number alone. -/
theorem first?_append {token : Token} {text rest : List Char} (spells : token.Spells text)
    (breaks : Breaks rest) : first? (text ++ rest) = some token := by
  cases spells with
  | dice timesDigits die facesDigits =>
    rw [List.append_assoc, List.cons_append, first?,
      dice?_append timesDigits die facesDigits breaks]
    rfl
  | @keep kept letter isKeep digits nonempty =>
    rw [List.cons_append, List.cons_append, List.append_assoc, List.singleton_append, first?,
      dice?_cons_eq_none _ rfl rfl, keep?_append rest isKeep digits nonempty]
    rfl
  | @select flag extreme =>
    rw [List.cons_append, List.cons_append, List.nil_append, first?,
      dice?_cons_eq_none _ rfl rfl, keep?_cons_eq_none _ (by decide), select?, if_pos extreme]
    rfl
  | @multiplier factor letter times digits nonempty =>
    have letters : letter = 'x' ∨ letter = 'X' := by
      simpa [isTimesLetter] using times
    have earlier : dice? (letter :: (factor ++ rest)) = none ∧
        keep? (letter :: (factor ++ rest)) = none ∧
        select? (letter :: (factor ++ rest)) = none := by
      rcases letters with rfl | rfl <;>
        exact ⟨dice?_cons_eq_none _ rfl rfl, keep?_cons_eq_none _ (by decide),
          select?_cons_eq_none _ (.inl (by decide))⟩
    rw [List.cons_append, first?, earlier.1, earlier.2.1, earlier.2.2, multiplier?, if_pos times,
      wholeNumber?_append digits nonempty breaks]
    rfl
  | @modifier sign gap amount signed blanks digits nonempty =>
    have signs : sign = '+' ∨ sign = '-' := by
      simpa using signed
    have earlier : dice? (sign :: (gap ++ (amount ++ rest))) = none ∧
        keep? (sign :: (gap ++ (amount ++ rest))) = none ∧
        multiplier? (sign :: (gap ++ (amount ++ rest))) = none := by
      rcases signs with rfl | rfl <;>
        exact ⟨dice?_cons_eq_none _ rfl rfl, keep?_cons_eq_none _ (by decide),
          multiplier?_cons_eq_none _ rfl⟩
    rw [List.cons_append, List.append_assoc, first?, earlier.1, earlier.2.1,
      select?_sign_eq_none sign rest blanks digits nonempty, earlier.2.2,
      modifier?_append signed blanks digits nonempty breaks]
    rfl

end Token

/-! ## Rows of tokens -/

/-- The texts that write some tokens in a row, with nothing between them and nothing that a number
could run on into. -/
inductive Spells : List Token → List Char → Prop
  | nil : Spells [] []
  | cons {token : Token} {tokens : List Token} {text rest : List Char} (first : token.Spells text)
      (breaks : Breaks rest) (others : Spells tokens rest) :
    Spells (token :: tokens) (text ++ rest)

namespace Lexeme

/-- Over the text of a row of tokens the scanner finds that row, and goes on behind it. -/
theorem map_token_scanFrom_append {tokens : List Token} {body rest : List Char}
    (spells : Spells tokens body) (breaks : Breaks rest) :
    ∀ position, (scanFrom 0 position (body ++ rest)).map token =
      tokens ++ (scanFrom 0 (position + body.length) rest).map token := by
  induction spells with
  | nil => intro position; rfl
  | @cons first tokens text others spelled othersBreak row ih =>
    intro position
    have breaksOff : Breaks (others ++ rest) := by
      by_cases last : others = []
      · rw [last]
        exact breaks
      · exact othersBreak.append last rest
    have found := Token.first?_append spelled breaksOff
    have width := spelled.length_eq
    obtain ⟨head, tail, rfl⟩ := List.exists_cons_of_ne_nil spelled.ne_nil
    have inside : first.width - 1 = tail.length := by
      rw [← width, List.length_cons, Nat.add_sub_cancel]
    have place : position + 1 + tail.length + others.length =
        position + (head :: tail ++ others).length := by
      rw [List.length_append, List.length_cons]
      omega
    rw [List.cons_append] at found
    rw [List.append_assoc, List.cons_append, scanFrom, found, List.map_cons, scanFrom_inside,
      inside, List.drop_left, ih, place]
    rfl

theorem map_token_scan {tokens : List Token} {body : List Char} (spells : Spells tokens body) :
    (scan body).map token = tokens := by
  have found := map_token_scanFrom_append spells .nil 0
  rw [List.append_nil, scanFrom_nil, List.map_nil, List.append_nil] at found
  exact found

end Lexeme

end DiceTower
