import DiceTower.Proofs.FoundTokens

/-!
# Where tokens stand

Every token is called for by one of its characters: dice by their die letter, and any other token
by its first character. `Lexeme.Called` says for each such character, from what stands around it
alone, which lexeme it calls for.

The scanner goes from left to right and may stand inside a number, but never so that it would take
the rest of the number for the number of dice (`Lexeme.Clear`). It keeps to this when it passes over
a character and when it takes a token, so it finds what is called for and nothing else. The main
statement is `Lexeme.scan_lists_called`.
-/

namespace DiceTower

open DiceTower.Text

/-! ## The number of dice before a die letter -/

/-- The digits right before a die letter are its number of dice, unless a die letter stands right
before them: then they are the faces of that earlier die. -/
def diceBefore (before : List Char) : List Char :=
  if (before.reverse.dropWhile isDigit).head?.any isDieLetter then []
  else (before.reverse.takeWhile isDigit).reverse

theorem diceBefore_append_cons (before : List Char) {c : Char} {digits : List Char}
    (noDigit : isDigit c = false) (all : AllDigits digits) :
    diceBefore (before ++ c :: digits) = if isDieLetter c then [] else digits := by
  have shape : (before ++ c :: digits).reverse = digits.reverse ++ c :: before.reverse := by
    simp
  have split : (digits.reverse ++ c :: before.reverse).takeWhile isDigit = digits.reverse ∧
      (digits.reverse ++ c :: before.reverse).dropWhile isDigit = c :: before.reverse := by
    apply takeWhile_dropWhile_append
    · exact fun digit member => all digit (List.mem_reverse.mp member)
    · intro head first
      cases first
      exact noDigit
  rw [diceBefore, shape, split.1, split.2, List.head?_cons, Option.any_some, List.reverse_reverse]

theorem diceBefore_of_allDigits {digits : List Char} (all : AllDigits digits) :
    diceBefore digits = digits := by
  have run : digits.reverse.takeWhile isDigit = digits.reverse :=
    List.takeWhile_eq_self_iff.mpr fun digit member => all digit (List.mem_reverse.mp member)
  have rest : digits.reverse.dropWhile isDigit = [] :=
    List.dropWhile_eq_nil_iff.mpr fun digit member => all digit (List.mem_reverse.mp member)
  rw [diceBefore, run, rest, List.reverse_reverse]
  rfl

/-- A text ends with digits only, or these have another character before them. -/
theorem exists_digits_at_end (text : List Char) :
    AllDigits text ∨
      ∃ before c digits, text = before ++ c :: digits ∧ isDigit c = false ∧ AllDigits digits := by
  induction text with
  | nil => exact .inl (List.forall_mem_nil _)
  | cons head rest hypothesis =>
    rcases hypothesis with all | ⟨before, c, digits, rfl, noDigit, all⟩
    · cases digit : isDigit head with
      | true => exact .inl (List.forall_mem_cons.mpr ⟨digit, all⟩)
      | false => exact .inr ⟨[], head, rest, rfl, digit, all⟩
    · exact .inr ⟨head :: before, c, digits, rfl, noDigit, all⟩

/-- No number goes on across the place between two parts of a text. -/
def Apart (before after : List Char) : Prop :=
  ∀ c ∈ before.getLast?, ∀ d ∈ after.head?, ¬ (isDigit c = true ∧ isDigit d = true)

theorem Apart.of_head {before after : List Char} (noDigit : ∀ d ∈ after.head?, isDigit d = false) :
    Apart before after := by
  intro c _ d first both
  rw [noDigit d first] at both
  cases both.2

theorem Apart.of_last {before after : List Char}
    (noDigit : ∀ c ∈ before.getLast?, isDigit c = false) : Apart before after := by
  intro c last d _ both
  rw [noDigit c last] at both
  cases both.1

/-- The number of dice stands right before the letter, and is a whole number. -/
theorem exists_append_diceBefore (text : List Char) {letter : Char}
    (noDigit : isDigit letter = false) (rest : List Char) :
    AllDigits (diceBefore text) ∧ ∃ before, text = before ++ diceBefore text ∧
      Apart before (diceBefore text ++ letter :: rest) := by
  have apart : ∀ before, Apart before (letter :: rest) := by
    intro before
    apply Apart.of_head
    rintro _ ⟨⟩
    exact noDigit
  rcases exists_digits_at_end text with all | ⟨before, c, digits, rfl, notDigit, all⟩
  · rw [diceBefore_of_allDigits all]
    refine ⟨all, [], rfl, .of_last ?_⟩
    rintro _ ⟨⟩
  · rw [diceBefore_append_cons before notDigit all]
    split
    · exact ⟨List.forall_mem_nil _, before ++ c :: digits, (List.append_nil _).symm, apart _⟩
    · refine ⟨all, before ++ [c], by simp, .of_last ?_⟩
      rw [List.getLast?_concat]
      rintro _ ⟨⟩
      exact notDigit

namespace Token

/-! ## The first token of a text -/

/-- What follows leaves the last number of a token alone: it starts with no digit and, except behind
dice, with no die letter either. -/
def LeftBy (after : List Char) : Token → Prop
  | dice _ _ => ∀ c ∈ after.head?, isDigit c = false
  | keep _ => True
  | select _ => True
  | multiplier _ => Breaks after
  | modifier _ _ _ => Breaks after

variable {token : Token} {spelled after : List Char}

theorem stops_of_spanDigits {text digits rest : List Char}
    (span : spanDigits text = (digits, rest)) : ∀ c ∈ rest.head?, isDigit c = false := by
  intro c first
  have stops := List.head?_dropWhile_not isDigit text
  rw [show text.dropWhile isDigit = rest from congrArg Prod.snd span,
    Option.mem_def.mp first] at stops
  exact stops

theorem dice?_die {times : List Char} {letter : Char} (all : AllDigits times)
    (die : isDieLetter letter = true) (rest : List Char) :
    dice? (times ++ letter :: rest) = some (.dice times (spanDigits rest).1) := by
  have span : spanDigits (times ++ letter :: rest) = (times, letter :: rest) := by
    apply spanDigits_append_of_allDigits all
    intro c head
    cases head
    exact isDigit_eq_false_of_isDieLetter die
  simp [dice?, span, die]

theorem first?_die {times : List Char} {letter : Char} (all : AllDigits times)
    (die : isDieLetter letter = true) (rest : List Char) :
    first? (times ++ letter :: rest) = some (.dice times (spanDigits rest).1) := by
  rw [first?, dice?_die all die]
  rfl

theorem first?_select {flag : Char} (extreme : (isLowestLetter flag || isHighestLetter flag) = true)
    (rest : List Char) : first? ('-' :: flag :: rest) = some (.select flag) := by
  rw [first?, dice?_cons_eq_none _ rfl rfl, keep?_cons_eq_none _ (by decide), select?,
    if_pos extreme]
  rfl

theorem first?_times {letter : Char} (times : isTimesLetter letter = true) (rest : List Char) :
    first? (letter :: rest) = multiplier? (letter :: rest) := by
  have letters : letter = 'x' ∨ letter = 'X' := by
    simpa [isTimesLetter] using times
  have others : dice? (letter :: rest) = none ∧ keep? (letter :: rest) = none ∧
      select? (letter :: rest) = none ∧ modifier? (letter :: rest) = none := by
    rcases letters with rfl | rfl <;>
      exact ⟨dice?_cons_eq_none _ rfl rfl, keep?_cons_eq_none _ (by decide),
        select?_cons_eq_none _ (.inl (by decide)), rfl⟩
  rw [first?, others.1, others.2.1, others.2.2.1, others.2.2.2]
  cases multiplier? (letter :: rest) <;> rfl

theorem first?_sign {sign : Char} (signed : (sign == '+' || sign == '-') = true) {rest : List Char}
    (unselected : select? (sign :: rest) = none) :
    first? (sign :: rest) = modifier? (sign :: rest) := by
  have signs : sign = '+' ∨ sign = '-' := by
    simpa using signed
  have others : dice? (sign :: rest) = none ∧ keep? (sign :: rest) = none ∧
      multiplier? (sign :: rest) = none := by
    rcases signs with rfl | rfl <;>
      exact ⟨dice?_cons_eq_none _ rfl rfl, keep?_cons_eq_none _ (by decide),
        multiplier?_cons_eq_none _ rfl⟩
  rw [first?, others.1, others.2.1, unselected, others.2.2]
  rfl

/-- A whole number is neither cut short nor a number of dice. -/
theorem breaks_of_wholeNumber? {digits : List Char}
    (found : wholeNumber? (digits ++ after) = some digits) : Breaks after := by
  unfold wholeNumber? at found
  cases span : spanDigits (digits ++ after) with
  | mk run rest =>
    simp only [span, Option.ite_none_left_eq_some, Bool.or_eq_true, not_or,
      Bool.not_eq_true] at found
    obtain ⟨⟨-, noDie⟩, same⟩ := found
    cases same
    obtain rfl := List.append_cancel_left (eq_append_of_spanDigits span).2
    exact fun c first => ⟨stops_of_spanDigits span c first,
      (Option.any_eq_false _ _).mp noDie c first⟩

/-- A token that is found takes its last number as a whole. -/
theorem leftBy_of_first? (spells : token.Spells spelled)
    (found : first? (spelled ++ after) = some token) : token.LeftBy after := by
  cases spells with
  | @dice times faces letter timesDigits die facesDigits =>
    rw [List.append_assoc, List.cons_append, first?_die timesDigits die] at found
    cases span : spanDigits (faces ++ after) with
    | mk run rest =>
      rw [span] at found
      cases found
      obtain rfl := List.append_cancel_left (eq_append_of_spanDigits span).2
      exact stops_of_spanDigits span
  | keep isKeep digits nonempty => trivial
  | select extreme => trivial
  | @multiplier factor letter times digits nonempty =>
    rw [List.cons_append, first?_times times, multiplier?, if_pos times] at found
    obtain ⟨_, number, same⟩ := Option.map_eq_some_iff.mp found
    cases same
    exact breaks_of_wholeNumber? number
  | @modifier sign gap amount signed blanks digits nonempty =>
    rw [List.cons_append, List.append_assoc] at found
    obtain ⟨taken, left⟩ := takeWhile_dropWhile_gap after blanks digits nonempty
    rw [first?_sign signed (select?_sign_eq_none sign after blanks digits nonempty), modifier?,
      if_pos signed, taken, left] at found
    obtain ⟨_, number, same⟩ := Option.map_eq_some_iff.mp found
    cases same
    exact breaks_of_wholeNumber? number

end Token

namespace Lexeme

/-! ## What characters call for -/

/-- The lexeme that the first character of `after` calls for when `before` stands before it. -/
inductive Called (before : List Char) : (after : List Char) → Lexeme → Prop
  /-- A die letter calls for dice, with the digits around it. -/
  | dice {letter : Char} {rest : List Char} (die : isDieLetter letter = true) :
    Called before (letter :: rest)
      ⟨before.length - (diceBefore before).length,
        diceBefore before ++ letter :: rest.takeWhile isDigit,
        .dice (diceBefore before) (rest.takeWhile isDigit)⟩
  /-- A parenthesis calls for a keep clause, if there is one. -/
  | keep {letter : Char} {kept rest : List Char} (isKeep : isKeepLetter letter = true)
      (digits : AllDigits kept) (nonempty : kept ≠ []) :
    Called before ('(' :: letter :: (kept ++ ')' :: rest))
      ⟨before.length, '(' :: letter :: (kept ++ [')']), .keep kept⟩
  /-- A minus sign calls for a selection, if the letter of one comes next. -/
  | select {flag : Char} {rest : List Char}
      (extreme : (isLowestLetter flag || isHighestLetter flag) = true) :
    Called before ('-' :: flag :: rest) ⟨before.length, ['-', flag], .select flag⟩
  /-- A times letter calls for a multiplier, if a number comes next that is none of dice. -/
  | multiplier {letter : Char} {factor rest : List Char} (times : isTimesLetter letter = true)
      (digits : AllDigits factor) (nonempty : factor ≠ []) (whole : Breaks rest) :
    Called before (letter :: (factor ++ rest))
      ⟨before.length, letter :: factor, .multiplier factor⟩
  /-- A sign calls for a modifier, if after blanks a number comes next that is none of dice. -/
  | modifier {sign : Char} {gap amount rest : List Char}
      (signed : (sign == '+' || sign == '-') = true) (blanks : allBlank gap = true)
      (digits : AllDigits amount) (nonempty : amount ≠ []) (whole : Breaks rest) :
    Called before (sign :: (gap ++ (amount ++ rest)))
      ⟨before.length, sign :: (gap ++ amount), .modifier sign gap amount⟩

/-- The characters that may call for a lexeme. -/
def callers : List Char := ['d', 'D', '(', 'x', 'X', '+', '-']

variable {before after : List Char} {lexeme other : Lexeme}

theorem mem_callers {letters : List Char} {c : Char} (member : c ∈ letters)
    (all : letters.all callers.contains = true) : c ∈ callers :=
  List.contains_iff_mem.mp (List.all_eq_true.mp all c member)

theorem Called.exists_caller (called : Called before after lexeme) :
    ∃ c rest, after = c :: rest ∧ c ∈ callers := by
  cases called with
  | dice die => exact ⟨_, _, rfl, mem_callers (mem_of_isDieLetter die) rfl⟩
  | keep isKeep digits nonempty => exact ⟨_, _, rfl, by decide⟩
  | select extreme => exact ⟨_, _, rfl, by decide⟩
  | multiplier times digits nonempty whole =>
    exact ⟨_, _, rfl, mem_callers (mem_of_isTimesLetter times) rfl⟩
  | modifier signed blanks digits nonempty whole =>
    exact ⟨_, _, rfl, mem_callers (mem_of_sign signed) rfl⟩

theorem not_mem_callers {inClass : Char → Bool} {c : Char} (isIn : inClass c = true)
    (isOut : callers.any inClass = false) : c ∉ callers :=
  fun member => List.any_eq_false.mp isOut c member isIn

theorem not_mem_callers_of_isDigit {c : Char} (digit : isDigit c = true) : c ∉ callers :=
  not_mem_callers digit rfl

theorem not_mem_callers_of_flag {c : Char}
    (extreme : (isLowestLetter c || isHighestLetter c) = true) : c ∉ callers :=
  @not_mem_callers (fun c => isLowestLetter c || isHighestLetter c) c extreme rfl

/-- What is called for at a die letter is dice, and what is called for elsewhere is the first token
from there on. -/
theorem Called.eq_or (called : Called before after lexeme) :
    (∃ letter rest, after = letter :: rest ∧ isDieLetter letter = true ∧
      lexeme = ⟨before.length - (diceBefore before).length,
        diceBefore before ++ letter :: rest.takeWhile isDigit,
        .dice (diceBefore before) (rest.takeWhile isDigit)⟩) ∨
    ((∀ c ∈ after.head?, isDieLetter c = false) ∧ ∃ token, Token.first? after = some token ∧
      lexeme = ⟨before.length, after.take token.width, token⟩) := by
  -- Every token but dice is written from its caller on.
  have written : ∀ {token : Token} {spelled rest : List Char}, token.Spells spelled →
      (spelled ++ rest).take token.width = spelled := by
    intro token spelled rest spells
    rw [← spells.length_eq, List.take_left]
  cases called with
  | dice die => exact .inl ⟨_, _, rfl, die, rfl⟩
  | @keep letter kept rest isKeep digits nonempty =>
    have spells : Token.Spells (.keep kept) ('(' :: letter :: (kept ++ [')'])) :=
      .keep isKeep digits nonempty
    have whole : '(' :: letter :: (kept ++ ')' :: rest) =
        '(' :: letter :: (kept ++ [')']) ++ rest := by simp
    refine .inr ⟨by rintro _ ⟨⟩; rfl, .keep kept, ?_, ?_⟩
    · rw [whole]
      exact Token.first?_keep spells rest
    · rw [whole, written spells]
  | @select flag rest extreme =>
    exact .inr ⟨by rintro _ ⟨⟩; rfl, _, Token.first?_select extreme rest, rfl⟩
  | @multiplier letter factor rest times digits nonempty whole =>
    have spells : Token.Spells (.multiplier factor) (letter :: factor) :=
      .multiplier times digits nonempty
    refine .inr ⟨?_, _, Token.first?_append spells whole, ?_⟩
    · rintro _ ⟨⟩
      exact eq_false_of_mem (mem_of_isTimesLetter times) rfl
    · rw [← List.cons_append, written spells]
  | @modifier sign gap amount rest signed blanks digits nonempty whole =>
    have spells : Token.Spells (.modifier sign gap amount) (sign :: (gap ++ amount)) :=
      .modifier signed blanks digits nonempty
    have cut : sign :: (gap ++ (amount ++ rest)) = sign :: (gap ++ amount) ++ rest := by simp
    refine .inr ⟨?_, .modifier sign gap amount, ?_, ?_⟩
    · rintro _ ⟨⟩
      exact eq_false_of_mem (mem_of_sign signed) rfl
    · rw [cut]
      exact Token.first?_append spells whole
    · rw [cut, written spells]

/-- What is called for is written there. -/
theorem Called.spells (called : Called before after lexeme) :
    lexeme.token.Spells lexeme.text := by
  cases called with
  | @dice letter rest die =>
    have times := (exists_append_diceBefore before (isDigit_eq_false_of_isDieLetter die) rest).1
    exact .dice times die fun c member => List.mem_takeWhile_imp member
  | keep isKeep digits nonempty => exact .keep isKeep digits nonempty
  | select extreme => exact .select extreme
  | multiplier times digits nonempty whole => exact .multiplier times digits nonempty
  | modifier signed blanks digits nonempty whole => exact .modifier signed blanks digits nonempty

/-- No character calls for two lexemes. -/
theorem Called.unique (called : Called before after lexeme) (again : Called before after other) :
    lexeme = other := by
  rcases called.eq_or with ⟨letter, rest, rfl, die, rfl⟩ | ⟨noDie, token, found, rfl⟩
  · rcases again.eq_or with ⟨_, _, same, -, rfl⟩ | ⟨noDie, -⟩
    · cases same
      rfl
    · rw [noDie letter rfl] at die
      cases die
  · rcases again.eq_or with ⟨letter, rest, rfl, die, -⟩ | ⟨-, token, foundAgain, rfl⟩
    · rw [noDie letter rfl] at die
      cases die
    · rw [found] at foundAgain
      rw [Option.some.inj foundAgain]

/-- Where something is called for, a token starts. -/
theorem Called.exists_first? (called : Called before after lexeme) :
    ∃ token, Token.first? after = some token := by
  rcases called.eq_or with ⟨letter, rest, rfl, die, -⟩ | ⟨-, token, found, -⟩
  · exact ⟨_, Token.first?_die (List.forall_mem_nil _) die rest⟩
  · exact ⟨_, found⟩

/-! ## Where the scanner stands -/

variable {front text spelled : List Char} {token : Token}

/-- Between the two parts of a text the scanner can go on: if digits and a die letter come next,
these digits are the number of dice. -/
def Clear (front text : List Char) : Prop :=
  ∀ times letter rest, text = times ++ letter :: rest → AllDigits times →
    isDieLetter letter = true → diceBefore (front ++ times) = times

theorem Clear.nil (text : List Char) : Clear [] text :=
  fun _ _ _ _ all _ => diceBefore_of_allDigits all

theorem clear_of_last {c : Char} (noDigit : isDigit c = false) (noDie : isDieLetter c = false)
    (text : List Char) : Clear (front ++ [c]) text := by
  intro times letter rest _ all _
  rw [List.append_assoc, List.singleton_append, diceBefore_append_cons front noDigit all, noDie]
  rfl

/-- Where no number of dice comes next there is nothing to take. -/
theorem clear_of_breaks (front : List Char) (breaks : Breaks text) : Clear front text := by
  intro times letter rest shape all die
  cases times with
  | nil =>
    have noDie := (breaks letter (by rw [shape]; rfl)).2
    rw [die] at noDie
    cases noDie
  | cons digit others =>
    have noDigit := (breaks digit (by rw [shape]; rfl)).1
    rw [all digit List.mem_cons_self] at noDigit
    cases noDigit

/-- A character where no token starts is not in the way. -/
theorem Clear.pass (front : List Char) {head : Char}
    (nothing : Token.first? (head :: text) = none) : Clear (front ++ [head]) text := by
  intro times letter rest shape all die
  have noDice : ∀ times' letter' rest', head :: text = times' ++ letter' :: rest' →
      AllDigits times' → isDieLetter letter' ≠ true := by
    intro times' letter' rest' whole all' die'
    rw [whole, Token.first?_die all' die'] at nothing
    cases nothing
  have noDigit : isDigit head = false := by
    rw [Bool.eq_false_iff]
    intro digit
    exact noDice (head :: times) letter rest (by rw [shape, List.cons_append])
      (List.forall_mem_cons.mpr ⟨digit, all⟩) die
  have noDie : isDieLetter head = false :=
    Bool.eq_false_iff.mpr (noDice [] head text rfl (List.forall_mem_nil _))
  exact clear_of_last noDigit noDie text times letter rest shape all die

/-- Behind a token the scanner can go on. -/
theorem Clear.behind (front : List Char) (spells : token.Spells spelled)
    (left : token.LeftBy after) : Clear (front ++ spelled) after := by
  cases spells with
  | @dice times faces letter timesDigits die facesDigits =>
    intro more letter' rest shape all die'
    have nothing : more = [] := by
      cases more with
      | nil => rfl
      | cons digit others =>
        have noDigit := left digit (by rw [shape]; rfl)
        rw [all digit List.mem_cons_self] at noDigit
        cases noDigit
    rw [nothing, List.append_nil, ← List.append_assoc,
      diceBefore_append_cons _ (isDigit_eq_false_of_isDieLetter die) facesDigits, die]
    rfl
  | @keep kept letter isKeep digits nonempty =>
    have shape : front ++ '(' :: letter :: (kept ++ [')']) =
        (front ++ '(' :: letter :: kept) ++ [')'] := by simp
    rw [shape]
    exact clear_of_last rfl rfl after
  | @select flag extreme =>
    have shape : front ++ ['-', flag] = (front ++ ['-']) ++ [flag] := by simp
    have noDigit : isDigit flag = false := eq_false_of_mem (mem_of_flag extreme) rfl
    have noDie : isDieLetter flag = false := eq_false_of_mem (mem_of_flag extreme) rfl
    rw [shape]
    exact clear_of_last noDigit noDie after
  | multiplier times digits nonempty => exact clear_of_breaks _ left
  | modifier signed blanks digits nonempty => exact clear_of_breaks _ left

/-- One character of a token calls for it, and no other character of it calls for anything. -/
theorem exists_caller_of_spells (spells : token.Spells spelled) (left : token.LeftBy after)
    (clear : Clear front (spelled ++ after)) :
    ∃ skipped c rest, spelled = skipped ++ c :: rest ∧ (∀ other ∈ skipped, other ∉ callers) ∧
      (∀ other ∈ rest, other ∉ callers) ∧
      Called (front ++ skipped) (c :: rest ++ after) ⟨front.length, spelled, token⟩ := by
  cases spells with
  | @dice times faces letter timesDigits die facesDigits =>
    have own : diceBefore (front ++ times) = times :=
      clear times letter (faces ++ after) (by simp) timesDigits die
    have run : (faces ++ after).takeWhile isDigit = faces :=
      (takeWhile_dropWhile_append facesDigits left).1
    refine ⟨times, letter, faces, rfl, fun c member => ?_, fun c member => ?_, ?_⟩
    · exact not_mem_callers_of_isDigit (timesDigits c member)
    · exact not_mem_callers_of_isDigit (facesDigits c member)
    · have called : Called (front ++ times) (letter :: (faces ++ after)) _ := .dice die
      rw [own, run, List.length_append, Nat.add_sub_cancel] at called
      exact called
  | @keep kept letter isKeep digits nonempty =>
    refine ⟨[], '(', letter :: (kept ++ [')']), rfl, List.forall_mem_nil _, ?_, ?_⟩
    · intro c member
      rcases List.mem_cons.mp member with rfl | member
      · exact not_mem_callers isKeep rfl
      · rcases List.mem_append.mp member with member | member
        · exact not_mem_callers_of_isDigit (digits c member)
        · rw [List.mem_singleton.mp member]
          decide
    · have called : Called front ('(' :: letter :: (kept ++ ')' :: after)) _ :=
        .keep isKeep digits nonempty
      simpa using called
  | @select flag extreme =>
    refine ⟨[], '-', [flag], rfl, List.forall_mem_nil _, ?_, ?_⟩
    · intro c member
      rw [List.mem_singleton.mp member]
      exact not_mem_callers_of_flag extreme
    · have called : Called front ('-' :: flag :: after) _ := .select extreme
      simpa using called
  | @multiplier factor letter times digits nonempty =>
    refine ⟨[], letter, factor, rfl, List.forall_mem_nil _, fun c member => ?_, ?_⟩
    · exact not_mem_callers_of_isDigit (digits c member)
    · rw [List.append_nil]
      exact .multiplier times digits nonempty left
  | @modifier sign gap amount signed blanks digits nonempty =>
    refine ⟨[], sign, gap ++ amount, rfl, List.forall_mem_nil _, fun c member => ?_, ?_⟩
    · rcases List.mem_append.mp member with member | member
      · exact not_mem_callers (List.all_eq_true.mp blanks c member) rfl
      · exact not_mem_callers_of_isDigit (digits c member)
    · have called : Called front (sign :: (gap ++ (amount ++ after))) _ :=
        .modifier signed blanks digits nonempty left
      simpa using called

/-- A text with one caller in it can be cut in front of a caller in one way only. -/
theorem cut_unique {left right left' right' : List Char} {c c' : Char}
    (same : left ++ c :: right = left' ++ c' :: right') (before : ∀ other ∈ left, other ∉ callers)
    (behind : ∀ other ∈ right, other ∉ callers) (calls : c' ∈ callers) :
    left = left' ∧ c :: right = c' :: right' := by
  rcases List.append_eq_append_iff.mp same with ⟨between, rfl, rest⟩ | ⟨between, rfl, rest⟩
  · cases between with
    | nil => exact ⟨(List.append_nil left).symm, rest⟩
    | cons first others =>
      obtain ⟨-, rfl⟩ := List.cons.inj rest
      exact (behind c' (List.mem_append_right _ List.mem_cons_self) calls).elim
  · cases between with
    | nil => exact ⟨List.append_nil left', rest.symm⟩
    | cons first others =>
      obtain ⟨rfl, -⟩ := List.cons.inj rest
      exact (before c' (List.mem_append_right _ List.mem_cons_self) calls).elim

/-- The characters of a token call for it, and for nothing else. -/
theorem called_within_iff (spells : token.Spells spelled) (left : token.LeftBy after)
    (clear : Clear front (spelled ++ after)) :
    (∃ skipped rest, rest ≠ [] ∧ spelled = skipped ++ rest ∧
      Called (front ++ skipped) (rest ++ after) lexeme) ↔
        lexeme = ⟨front.length, spelled, token⟩ := by
  obtain ⟨skipped, c, rest, shape, before, behind, called⟩ :=
    exists_caller_of_spells spells left clear
  constructor
  · rintro ⟨skipped', rest', nonempty, shape', called'⟩
    obtain ⟨c', others, start, calls⟩ := called'.exists_caller
    obtain ⟨first, tail, rfl⟩ := List.exists_cons_of_ne_nil nonempty
    obtain ⟨rfl, -⟩ := List.cons.inj start
    obtain ⟨rfl, same⟩ := cut_unique (shape.symm.trans shape') before behind calls
    rw [← same] at called'
    exact called'.unique called
  · rintro rfl
    exact ⟨skipped, c :: rest, List.cons_ne_nil c rest, shape, called⟩

/-! ## What the scanner finds -/

/-- A token that is found is listed, and the scanner goes on behind it. -/
theorem scanFrom_append (spells : token.Spells spelled)
    (found : Token.first? (spelled ++ after) = some token) (position : Nat) :
    scanFrom 0 position (spelled ++ after) =
      ⟨position, spelled, token⟩ :: scanFrom 0 (position + spelled.length) after := by
  have taken : (spelled ++ after).take token.width = spelled := by
    rw [← spells.length_eq, List.take_left]
  have width := spells.length_eq
  obtain ⟨head, tail, rfl⟩ := List.exists_cons_of_ne_nil spells.ne_nil
  have inside : token.width - 1 = tail.length := by
    rw [← width, List.length_cons, Nat.add_sub_cancel]
  have reached : position + 1 + tail.length = position + (head :: tail).length := by
    rw [List.length_cons]
    omega
  rw [List.cons_append] at found taken ⊢
  rw [scanFrom, found]
  dsimp only
  rw [taken, inside, scanFrom_inside, List.drop_left, reached]

/-- From a place where it can go on the scanner finds what the characters from there on call for. -/
theorem mem_scanFrom_iff (clear : Clear front text) :
    lexeme ∈ scanFrom 0 front.length text ↔
      ∃ skipped rest, text = skipped ++ rest ∧ Called (front ++ skipped) rest lexeme := by
  -- The induction is on what is left, which a token shortens by more than one character.
  induction length : text.length using Nat.strong_induction_on generalizing front text with
  | _ n hypothesis =>
    cases text with
    | nil =>
      rw [scanFrom_nil]
      constructor
      · intro found
        cases found
      · rintro ⟨skipped, rest, shape, called⟩
        obtain ⟨c, others, rfl, -⟩ := called.exists_caller
        exact absurd shape.symm (by simp)
    | cons head tail =>
      cases first : Token.first? (head :: tail) with
      | none =>
        have passed := hypothesis tail.length (by rw [← length, List.length_cons]; omega)
          (Clear.pass front first) rfl
        rw [scanFrom, first]
        dsimp only
        rw [List.length_append, List.length_singleton] at passed
        rw [passed]
        constructor
        · rintro ⟨skipped, rest, rfl, called⟩
          refine ⟨head :: skipped, rest, rfl, ?_⟩
          rw [List.append_assoc] at called
          exact called
        · rintro ⟨skipped, rest, shape, called⟩
          cases skipped with
          | nil =>
            obtain ⟨token, found⟩ := called.exists_first?
            rw [← show head :: tail = rest from shape, first] at found
            cases found
          | cons c skipped =>
            obtain ⟨rfl, rfl⟩ := List.cons.inj shape
            refine ⟨skipped, rest, rfl, ?_⟩
            rw [List.append_assoc]
            exact called
      | some token =>
        obtain ⟨spelled, after, spells, shape⟩ := Token.starts_of_first? first
        rw [shape] at first clear length ⊢
        have left := Token.leftBy_of_first? spells first
        have shorter : after.length < n := by
          have width := List.length_pos_of_ne_nil spells.ne_nil
          rw [List.length_append] at length
          omega
        have later := hypothesis after.length shorter
          (Clear.behind front spells left) rfl
        rw [List.length_append] at later
        rw [scanFrom_append spells first, List.mem_cons, later,
          ← called_within_iff spells left clear]
        constructor
        · rintro (⟨skipped, rest, -, rfl, called⟩ | ⟨skipped, rest, rfl, called⟩)
          · exact ⟨skipped, rest ++ after, List.append_assoc _ _ _, called⟩
          · refine ⟨spelled ++ skipped, rest, (List.append_assoc _ _ _).symm, ?_⟩
            rw [List.append_assoc] at called
            exact called
        · rintro ⟨skipped, rest, whole, called⟩
          rcases List.append_eq_append_iff.mp whole with
            ⟨between, rfl, rfl⟩ | ⟨between, rfl, rfl⟩
          · refine .inr ⟨between, rest, rfl, ?_⟩
            rw [List.append_assoc]
            exact called
          · cases between with
            | nil => exact .inr ⟨[], after, rfl, by simpa using called⟩
            | cons c between =>
              exact .inl ⟨skipped, c :: between, List.cons_ne_nil _ _, rfl, called⟩

/-- What is listed starts behind what is still inside a token. -/
theorem le_start_of_mem_scanFrom {inside position : Nat}
    (found : lexeme ∈ scanFrom inside position text) : position + inside ≤ lexeme.start := by
  rw [scanFrom_inside] at found
  obtain ⟨before, after, start, -⟩ := exists_split_of_mem_scanFrom found
  omega

/-- Each lexeme ends before the next one starts. -/
theorem pairwise_scanFrom (inside position : Nat) (text : List Char) :
    (scanFrom inside position text).Pairwise fun earlier later => earlier.stop ≤ later.start := by
  induction text generalizing inside position with
  | nil =>
    rw [scanFrom_nil]
    exact .nil
  | cons head rest hypothesis =>
    cases inside with
    | succ inside => exact hypothesis inside (position + 1)
    | zero =>
      rw [scanFrom]
      split
      · rename_i token first
        refine .cons ?_ (hypothesis _ _)
        intro later found
        have behind := le_start_of_mem_scanFrom found
        have width : ((head :: rest).take token.width).length ≤ token.width :=
          List.length_take_le _ _
        rw [stop]
        dsimp only
        omega
      · exact hypothesis 0 (position + 1)

/-- No number goes on behind a token that has taken its last number as a whole. -/
theorem apart_behind (front : List Char) (spells : token.Spells spelled)
    (left : token.LeftBy after) : Apart (front ++ spelled) after := by
  have ends : ∀ {c : Char}, isDigit c = false → ∀ before : List Char,
      Apart (before ++ [c]) after := by
    intro c noDigit before
    apply Apart.of_last
    rw [List.getLast?_concat]
    rintro _ ⟨⟩
    exact noDigit
  cases spells with
  | dice timesDigits die facesDigits => exact .of_head left
  | @keep kept letter isKeep digits nonempty =>
    have shape : front ++ '(' :: letter :: (kept ++ [')']) =
        (front ++ '(' :: letter :: kept) ++ [')'] := by simp
    rw [shape]
    exact ends rfl _
  | @select flag extreme =>
    have shape : front ++ ['-', flag] = (front ++ ['-']) ++ [flag] := by simp
    have noDigit : isDigit flag = false := eq_false_of_mem (mem_of_flag extreme) rfl
    rw [shape]
    exact ends noDigit _
  | multiplier times digits nonempty => exact .of_head fun c first => (left c first).1
  | modifier signed blanks digits nonempty => exact .of_head fun c first => (left c first).1

/-- A lexeme that is called for stands at its place, is not empty, and neither starts nor ends
inside a number. -/
theorem Called.stands (called : Called before after lexeme) :
    lexeme.start < lexeme.stop ∧ ∃ front behind,
      before ++ after = front ++ (lexeme.text ++ behind) ∧ front.length = lexeme.start ∧
      Apart front (lexeme.text ++ behind) ∧ Apart (front ++ lexeme.text) behind := by
  -- A token that starts with its caller starts with no digit.
  have starts : ∀ {c : Char}, isDigit c = false → ∀ rest : List Char, Apart before (c :: rest) := by
    intro c noDigit rest
    apply Apart.of_head
    rintro _ ⟨⟩
    exact noDigit
  cases called with
  | @dice letter rest die =>
    have noDigit := isDigit_eq_false_of_isDieLetter die
    cases span : spanDigits rest with
    | mk faces behind =>
      obtain ⟨facesDigits, rfl⟩ := eq_append_of_spanDigits span
      obtain ⟨timesDigits, front, shape, apart⟩ :=
        exists_append_diceBefore before noDigit (faces ++ behind)
      have run : (faces ++ behind).takeWhile isDigit = faces := congrArg Prod.fst span
      have place : front.length = before.length - (diceBefore before).length := by
        have lengths := congrArg List.length shape
        rw [List.length_append] at lengths
        omega
      have spells : Token.Spells (.dice (diceBefore before) faces)
          (diceBefore before ++ letter :: faces) := .dice timesDigits die facesDigits
      dsimp only
      rw [run]
      refine ⟨?_, front, behind, ?_, place, ?_, ?_⟩
      · simp only [stop, List.length_append, List.length_cons]
        omega
      · rw [List.append_assoc, List.cons_append, ← List.append_assoc, ← shape]
      · rw [List.append_assoc, List.cons_append]
        exact apart
      · exact apart_behind front spells (Token.stops_of_spanDigits span)
  | @keep letter kept rest isKeep digits nonempty =>
    exact ⟨by simp [stop], before, rest, by simp, rfl, starts rfl _,
      apart_behind before (.keep isKeep digits nonempty) trivial⟩
  | @select flag rest extreme =>
    exact ⟨by simp [stop], before, rest, rfl, rfl, starts rfl _,
      apart_behind before (.select extreme) trivial⟩
  | @multiplier letter factor rest times digits nonempty whole =>
    exact ⟨by simp [stop], before, rest, rfl, rfl,
      starts (isDigit_eq_false_of_isTimesLetter times) _,
      apart_behind before (.multiplier times digits nonempty) whole⟩
  | @modifier sign gap amount rest signed blanks digits nonempty whole =>
    have noDigit : isDigit sign = false := eq_false_of_mem (mem_of_sign signed) rfl
    exact ⟨by simp [stop], before, rest, by simp, rfl, starts noDigit _,
      apart_behind before (.modifier signed blanks digits nonempty) whole⟩

/-- The scanner lists just those lexemes that characters of the body call for, each before the next
one, and none of them starts or ends inside a number. -/
theorem scan_lists_called (body : List Char) :
    (∀ lexeme, lexeme ∈ scan body ↔
        ∃ before after, body = before ++ after ∧ Called before after lexeme) ∧
      (scan body).Pairwise (fun earlier later => earlier.stop ≤ later.start) ∧
      ∀ lexeme ∈ scan body, lexeme.start < lexeme.stop ∧
        ∃ before after, body = before ++ (lexeme.text ++ after) ∧ before.length = lexeme.start ∧
          Apart before (lexeme.text ++ after) ∧ Apart (before ++ lexeme.text) after := by
  have listed : ∀ lexeme, lexeme ∈ scan body ↔
      ∃ before after, body = before ++ after ∧ Called before after lexeme :=
    fun lexeme => mem_scanFrom_iff (Clear.nil body)
  refine ⟨listed, pairwise_scanFrom 0 0 body, fun lexeme found => ?_⟩
  obtain ⟨before, after, rfl, called⟩ := (listed lexeme).mp found
  exact called.stands

/-- The number behind the first die letter is its own, and the one behind the sign counts dice. -/
example : (scan "2d6d8+12d4".toList).map (fun lexeme => (lexeme.start, lexeme.stop)) =
    [(0, 3), (3, 5), (6, 10)] := by
  decide

end Lexeme

end DiceTower
