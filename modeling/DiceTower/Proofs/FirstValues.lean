import DiceTower.Proofs.Mentions
import DiceTower.Proofs.TokenPlaces
import Mathlib.Data.List.Find

/-!
# First values

Of the numbers that the tokens of a text mention for a part of a command, the first one that is not
zero is the value of the part (`Draft.get_of_gather`), and the numbers behind it are not looked at.
Reading fails for the first number that is looked at and has too many digits (`FirstTooLong`).

The main statement is `Command.read_first_values`.
-/

namespace DiceTower

open DiceTower.Text

/-- The numbers that are mentioned for a part, in order. -/
def valuesFor (part : Part) (mentions : List Mention) : List Int :=
  (mentions.filter fun mention => mention.part = part).map Mention.value

/-- The first number that is converted and has too many digits: the repeat count comes before all
mentions, and a mention counts only if its part is still open. -/
inductive FirstTooLong (count : List Char) (mentions : List Mention) : List Char → Prop
  | count (long : Numeral.maxDigits < count.length) : FirstTooLong count mentions count
  | mention {before after : List Mention} {mention : Mention}
      (short : count.length ≤ Numeral.maxDigits)
      (place : mentions = before ++ mention :: after) (isOpen : OpenAfter before mention.part)
      (long : Numeral.maxDigits < mention.digits.length)
      (first : ∀ earlier other later, before = earlier ++ other :: later →
        OpenAfter earlier other.part → other.digits.length ≤ Numeral.maxDigits) :
    FirstTooLong count mentions mention.digits

/-- The token is a selection by a letter of a class. -/
def Token.selects (inClass : Char → Bool) : Token → Bool
  | select flag => inClass flag
  | _ => false

/-- The command that a row of tokens asks for, with the digits of the repeat count: each count is
the first positive one for its part, and the modifier the first one other than zero. -/
def Command.ofFirstValues (count : List Char) (tokens : List Token) : Command :=
  let mentions := tokens.flatMap Token.mentions
  let positive part := (valuesFor part mentions).find? (0 < ·)
  { times := (positive .times).getD 1
    faces := (positive .faces).getD 20
    keep := positive .keep
    lowest := tokens.any (·.selects isLowestLetter)
    highest := tokens.any (·.selects isHighestLetter)
    multiplier := (positive .multiplier).getD 1
    modifier := ((valuesFor .modifier mentions).find? (· ≠ 0)).getD 0
    rounds := if 0 < Numeral.value count then Numeral.value count else (1 : Int) }

namespace Token

/-- Only a modifier can be below zero. -/
theorem value_nonneg_of_mem_mentions {token : Token} {mention : Mention}
    (member : mention ∈ token.mentions) (count : mention.part ≠ .modifier) :
    0 ≤ mention.value := by
  have unsigned : mention.negative = false := by
    cases token with
    | dice times faces =>
      rcases List.mem_pair.mp member with rfl | rfl <;> rfl
    | keep kept =>
      rw [List.mem_singleton.mp member]
    | select flag => cases member
    | multiplier factor =>
      rw [List.mem_singleton.mp member]
    | modifier sign gap amount =>
      rw [List.mem_singleton.mp member] at count
      exact absurd rfl count
  rw [Mention.value, unsigned]
  exact Int.natCast_nonneg _

end Token

namespace Draft

variable {held held' : Part → Int} {mention : Mention} {mentions : List Mention}
  {draft draft' : Draft} {token : Token} {tokens : List Token}

/-! ## The first value of a part -/

/-- A mention of an open part is its value, and all other parts stay as they are. -/
theorem get_of_note (noted : note held mention = .ok held') (part : Part) :
    held' part =
      if held part = 0 ∧ mention.part = part then mention.value else held part := by
  unfold note at noted
  split at noted
  · rename_i isOpen
    obtain ⟨_, -, rfl⟩ := Pipeline.map_eq_ok_iff.mp noted
    by_cases same : mention.part = part
    · subst same
      rw [Function.update_self, if_pos ⟨isOpen, rfl⟩]
    · rw [Function.update_of_ne (Ne.symm same), if_neg fun both => same both.2]
  · rename_i settled
    cases noted
    refine (if_neg ?_).symm
    rintro ⟨zero, rfl⟩
    exact settled zero

/-- A part that is open takes the first number other than zero that is mentioned for it. -/
theorem get_of_foldlM_note (noted : mentions.foldlM note held = .ok held') (part : Part) :
    held' part =
      if held part = 0 then ((valuesFor part mentions).find? (· ≠ 0)).getD 0 else held part := by
  induction mentions generalizing held with
  | nil =>
    cases noted
    split
    · rename_i isOpen
      exact isOpen
    · rfl
  | cons first others hypothesis =>
    rw [List.foldlM_cons] at noted
    obtain ⟨middle, firstNoted, othersNoted⟩ := Pipeline.bind_eq_ok_iff.mp noted
    rw [hypothesis othersNoted, get_of_note firstNoted]
    -- The first number settles an open part unless it is for another part or zero.
    by_cases isOpen : held part = 0
    · by_cases same : first.part = part
      · by_cases zero : first.value = 0 <;> simp [valuesFor, isOpen, same, zero]
      · simp [valuesFor, isOpen, same]
    · simp [isOpen]

/-- The draft of some tokens holds for each part the first number other than zero. -/
theorem get_of_gather (gathered : gather tokens = .ok draft) (part : Part) :
    draft.get part =
      ((valuesFor part (tokens.flatMap Token.mentions)).find? (· ≠ 0)).getD 0 := by
  have noted := map_get_gather tokens
  rw [gathered] at noted
  exact get_of_foldlM_note noted.symm part

/-! ## Selections -/

/-- Only a selection changes what is selected. -/
theorem flags_of_add (added : draft.add token = .ok draft') :
    draft'.highest = (draft.highest || token.selects isHighestLetter) ∧
      draft'.lowest = (draft.lowest || token.selects fun flag => !isHighestLetter flag) := by
  cases token with
  | dice times faces =>
    obtain ⟨_, -, added⟩ := Pipeline.bind_eq_ok_iff.mp added
    obtain ⟨_, -, same⟩ := Pipeline.bind_eq_ok_iff.mp added
    cases same
    exact ⟨(Bool.or_false _).symm, (Bool.or_false _).symm⟩
  | keep kept =>
    obtain ⟨_, -, same⟩ := Pipeline.bind_eq_ok_iff.mp added
    cases same
    exact ⟨(Bool.or_false _).symm, (Bool.or_false _).symm⟩
  | select flag =>
    rw [add] at added
    split at added
    · rename_i highest
      cases added
      simp [Token.selects, highest]
    · rename_i lowest
      cases added
      simp [Token.selects, lowest]
  | multiplier factor =>
    obtain ⟨_, -, same⟩ := Pipeline.bind_eq_ok_iff.mp added
    cases same
    exact ⟨(Bool.or_false _).symm, (Bool.or_false _).symm⟩
  | modifier sign gap amount =>
    rw [add] at added
    split at added
    · obtain ⟨_, -, same⟩ := Pipeline.bind_eq_ok_iff.mp added
      cases same
      exact ⟨(Bool.or_false _).symm, (Bool.or_false _).symm⟩
    · cases added
      exact ⟨(Bool.or_false _).symm, (Bool.or_false _).symm⟩

theorem flags_of_foldlM_add (added : tokens.foldlM add draft = .ok draft') :
    draft'.highest = (draft.highest || tokens.any (·.selects isHighestLetter)) ∧
      draft'.lowest =
        (draft.lowest || tokens.any (·.selects fun flag => !isHighestLetter flag)) := by
  induction tokens generalizing draft with
  | nil =>
    cases added
    exact ⟨(Bool.or_false _).symm, (Bool.or_false _).symm⟩
  | cons first others hypothesis =>
    rw [List.foldlM_cons] at added
    obtain ⟨middle, firstAdded, othersAdded⟩ := Pipeline.bind_eq_ok_iff.mp added
    obtain ⟨highest, lowest⟩ := flags_of_add firstAdded
    obtain ⟨highest', lowest'⟩ := hypothesis othersAdded
    rw [highest', lowest', highest, lowest, List.any_cons, List.any_cons, Bool.or_assoc,
      Bool.or_assoc]
    exact ⟨rfl, rfl⟩

/-! ## Failures -/

/-- A row of mentions is noted if none of those that are converted is too long. -/
theorem exists_foldlM_note_iff :
    (∃ held', mentions.foldlM note (fun _ => 0) = .ok held') ↔
      ∀ before mention after, mentions = before ++ mention :: after →
        OpenAfter before mention.part → mention.digits.length ≤ Numeral.maxDigits := by
  constructor
  · rintro ⟨held', noted⟩ before mention after rfl isOpen
    by_contra long
    have front := noted
    rw [List.foldlM_append] at front
    obtain ⟨held, passed, -⟩ := Pipeline.bind_eq_ok_iff.mp front
    have failed := foldlM_note_eq_error_iff.mpr ⟨before, mention, after, rfl, ⟨held, passed⟩,
      rfl, isOpen, by omega, rfl⟩
    rw [failed] at noted
    cases noted
  · intro short
    cases result : mentions.foldlM note fun _ => 0 with
    | ok held' => exact ⟨held', rfl⟩
    | error fault =>
      obtain ⟨before, mention, after, place, -, -, isOpen, long, -⟩ :=
        foldlM_note_eq_error_iff.mp result
      have := short before mention after place isOpen
      omega

theorem gather_eq_error_iff {fault : Numeral.Fault} :
    gather tokens = .error fault ↔
      (tokens.flatMap Token.mentions).foldlM note (fun _ => 0) = .error fault := by
  rw [← map_get_gather, Pipeline.map_eq_error_iff]

/-- A count that is held is the first number other than zero, and zero says that there is none. -/
theorem find?_of_held {count : Nat} {values : List Int}
    (held : (count : Int) = (values.find? (· ≠ 0)).getD 0) :
    values.find? (· ≠ 0) = if count = 0 then none else some (count : Int) := by
  cases found : values.find? (· ≠ 0) with
  | none =>
    rw [found, Option.getD_none] at held
    exact (if_pos (by omega)).symm
  | some value =>
    have nonzero : value ≠ 0 := by simpa using List.find?_some found
    rw [found, Option.getD_some] at held
    rw [if_neg (by omega), held]

end Draft

namespace Command

/-- Reading fails just for the first number that is converted and too long. -/
theorem readText_eq_error_iff {text : List Char} {fault : Numeral.Fault} :
    readText text = .error fault ↔
      ∃ digits, FirstTooLong (Envelope.split (strip text)).count (mentions text) digits ∧
        fault = .unreadable digits.length := by
  unfold readText
  dsimp only
  cases counted : Numeral.read (Envelope.split (strip text)).count with
  | error other =>
    obtain ⟨long, rfl⟩ := Numeral.read_eq_error_iff.mp counted
    constructor
    · intro failed
      cases failed
      exact ⟨_, .count long, rfl⟩
    · rintro ⟨digits, first, rfl⟩
      cases first with
      | count => rfl
      | mention short => omega
  | ok rounds =>
    obtain ⟨short, -⟩ := Numeral.read_eq_ok_iff.mp counted
    rw [Pipeline.bind_of_ok rfl, bind_pure_comp]
    refine Pipeline.map_eq_error_iff.trans (Draft.gather_eq_error_iff.trans ?_)
    rw [Draft.foldlM_note_eq_error_iff]
    constructor
    · rintro ⟨before, mention, after, place, passed, -, isOpen, long, rfl⟩
      exact ⟨mention.digits,
        .mention short place isOpen long (Draft.exists_foldlM_note_iff.mp passed), rfl⟩
    · rintro ⟨digits, first, rfl⟩
      cases first with
      | count long => omega
      | mention _ place isOpen long first =>
        exact ⟨_, _, _, place, Draft.exists_foldlM_note_iff.mpr first, rfl, isOpen, long, rfl⟩

/-- If any number that is converted is too long, there is a first one. -/
theorem exists_firstTooLong_iff {count : List Char} {mentions : List Mention} :
    (∃ digits, FirstTooLong count mentions digits) ↔
      Numeral.maxDigits < count.length ∨
        ∃ before mention after, mentions = before ++ mention :: after ∧
          OpenAfter before mention.part ∧ Numeral.maxDigits < mention.digits.length := by
  constructor
  · rintro ⟨digits, first⟩
    cases first with
    | count long => exact .inl long
    | mention short place isOpen long first => exact .inr ⟨_, _, _, place, isOpen, long⟩
  · intro tooLong
    by_cases short : count.length ≤ Numeral.maxDigits
    · obtain ⟨before, mention, after, place, isOpen, long⟩ := tooLong.resolve_left (by omega)
      -- The run over all mentions fails, so it fails at the first one that makes it fail.
      cases result : mentions.foldlM Draft.note fun _ => 0 with
      | ok held =>
        have := Draft.exists_foldlM_note_iff.mp ⟨held, result⟩ before mention after place isOpen
        omega
      | error fault =>
        obtain ⟨before, mention, after, place, passed, -, isOpen, long, -⟩ :=
          Draft.foldlM_note_eq_error_iff.mp result
        exact ⟨mention.digits,
          .mention short place isOpen long (Draft.exists_foldlM_note_iff.mp passed)⟩
    · exact ⟨count, .count (by omega)⟩

/-! ## What is read -/

/-- A token that is scanned selects the lowest if it selects and does not select the highest. -/
theorem selects_lowest_of_mem_scan {body : List Char} {lexeme : Lexeme}
    (found : lexeme ∈ Lexeme.scan body) :
    (lexeme.token.selects fun flag => !isHighestLetter flag) =
      lexeme.token.selects isLowestLetter := by
  obtain ⟨before, after, -, called⟩ := (Lexeme.mem_scanFrom_iff (Lexeme.Clear.nil body)).mp found
  have spells := called.spells
  obtain ⟨start, spelled, token⟩ := lexeme
  dsimp only at spells ⊢
  cases spells with
  | select extreme =>
    simp only [isLowestLetter, isHighestLetter, Bool.or_eq_true, beq_iff_eq] at extreme
    rcases extreme with (rfl | rfl) | (rfl | rfl) <;> decide
  | _ => rfl

theorem any_selects_lowest (body : List Char) :
    (((Lexeme.scan body).map Lexeme.token).any (·.selects fun flag => !isHighestLetter flag)) =
      ((Lexeme.scan body).map Lexeme.token).any (·.selects isLowestLetter) := by
  rw [List.any_map, List.any_map, Bool.eq_iff_iff, List.any_eq_true, List.any_eq_true]
  refine exists_congr fun lexeme => and_congr_right fun found => ?_
  rw [Function.comp_apply, Function.comp_apply, selects_lowest_of_mem_scan found]

/-- For a count the first number other than zero is the first positive one. -/
theorem find?_valuesFor {part : Part} (count : part ≠ .modifier) (tokens : List Token) :
    (valuesFor part (tokens.flatMap Token.mentions)).find? (0 < ·) =
      (valuesFor part (tokens.flatMap Token.mentions)).find? (· ≠ 0) := by
  apply List.find?_congr
  intro value member
  obtain ⟨mention, found, rfl⟩ := List.mem_map.mp member
  obtain ⟨found, same⟩ := List.mem_filter.mp found
  obtain ⟨token, -, mentioned⟩ := List.mem_flatMap.mp found
  have nonneg := Token.value_nonneg_of_mem_mentions mentioned
    (by rw [of_decide_eq_true same]; exact count)
  rw [decide_eq_decide]
  omega

/-- What the tokens of a body leave in a draft is the command that they ask for. -/
theorem command_of_gather {body count : List Char} {draft : Draft}
    (gathered : Draft.gather ((Lexeme.scan body).map Lexeme.token) = .ok draft) :
    draft.command (Numeral.value count) =
      ofFirstValues count ((Lexeme.scan body).map Lexeme.token) := by
  let tokens := (Lexeme.scan body).map Lexeme.token
  let positive part := (valuesFor part (tokens.flatMap Token.mentions)).find? (0 < ·)
  have parts := Draft.get_of_gather gathered
  obtain ⟨highest, lowest⟩ := Draft.flags_of_foldlM_add gathered
  have held : ∀ (part : Part) {count}, part ≠ .modifier → draft.get part = (count : Nat) →
      positive part = if count = 0 then none else some (count : Int) := by
    intro part count isCount holds
    simp only [positive]
    rw [find?_valuesFor isCount]
    exact Draft.find?_of_held (holds ▸ parts part)
  have counts : ∀ (part : Part) {count} (usual : Nat), part ≠ .modifier →
      draft.get part = (count : Nat) → Draft.orUsual count usual = (positive part).getD usual := by
    intro part count usual isCount holds
    rw [held part isCount holds, Draft.orUsual]
    split <;> rfl
  have rounds : Draft.orUsual (Numeral.value count) 1 =
      if 0 < Numeral.value count then (Numeral.value count : Int) else 1 := by
    rw [Draft.orUsual]
    split <;> split <;> omega
  have lowest' : draft.lowest = tokens.any (·.selects isLowestLetter) := by
    rw [lowest, Bool.false_or]
    exact any_selects_lowest body
  have modifier := parts .modifier
  rw [Draft.get] at modifier
  rw [Draft.command, counts .times 1 (by decide) rfl, counts .faces 20 (by decide) rfl,
    counts .multiplier 1 (by decide) rfl, ← held .keep (by decide) rfl, rounds, lowest', highest,
    modifier]
  rfl

/-- If nothing that is converted is too long, the command that the tokens ask for is read. -/
theorem readText_eq_ok {text : List Char}
    (short : ¬ ∃ digits, FirstTooLong (Envelope.split (strip text)).count (mentions text) digits) :
    let envelope := Envelope.split (strip text)
    readText text =
      .ok (ofFirstValues envelope.count ((Lexeme.scan envelope.body).map Lexeme.token)) := by
  intro envelope
  cases result : readText text with
  | error fault =>
    obtain ⟨digits, first, -⟩ := readText_eq_error_iff.mp result
    exact absurd ⟨digits, first⟩ short
  | ok command =>
    obtain ⟨rounds, counted, reads⟩ := Pipeline.bind_eq_ok_iff.mp result
    obtain ⟨draft, gathered, same⟩ := Pipeline.bind_eq_ok_iff.mp reads
    obtain ⟨-, rfl⟩ := Numeral.read_eq_ok_iff.mp counted
    cases same
    exact congrArg Except.ok (command_of_gather gathered)

/-- The first value other than zero that is mentioned for a part counts, and only the numbers up to
it are converted: reading a text that is not blank fails for the first of these that has too many
digits, and for nothing else. -/
theorem read_first_values {text : String} (solid : isBlank (some text) = false)
    (fallback : String) :
    let envelope := Envelope.split (strip text.toList)
    let tokens := (Lexeme.scan envelope.body).map Lexeme.token
    let mentions := tokens.flatMap Token.mentions
    (∀ failure, read (some text) fallback = .error failure ↔
        ∃ digits, FirstTooLong envelope.count mentions digits ∧
          failure = .numeral (.unreadable digits.length)) ∧
      ((∃ digits, FirstTooLong envelope.count mentions digits) ↔
        Numeral.maxDigits < envelope.count.length ∨
          ∃ before mention after, mentions = before ++ mention :: after ∧
            OpenAfter before mention.part ∧ Numeral.maxDigits < mention.digits.length) ∧
      ((¬ ∃ digits, FirstTooLong envelope.count mentions digits) →
        read (some text) fallback = .ok (ofFirstValues envelope.count tokens)) := by
  intro envelope tokens mentions
  have reads : read (some text) fallback =
      (readText text.toList).mapError Failure.numeral := by
    rw [read, textOr_of_not_blank solid]
  refine ⟨fun failure => ?_, exists_firstTooLong_iff, fun short => ?_⟩
  · rw [reads, Pipeline.mapError_eq_error_iff]
    constructor
    · rintro ⟨fault, failed, rfl⟩
      obtain ⟨digits, first, rfl⟩ := readText_eq_error_iff.mp failed
      exact ⟨digits, first, rfl⟩
    · rintro ⟨digits, first, rfl⟩
      exact ⟨_, readText_eq_error_iff.mpr ⟨digits, first, rfl⟩, rfl⟩
  · rw [reads, Pipeline.mapError_eq_ok_iff]
    exact readText_eq_ok short

/-- Zeros and missing numbers leave a part open, and the numbers after the first value of a part do
not count. -/
theorem read_first_values_of_zeros :
    let text := "0x(0d0 2d0d8 3d9(k0)-Lx3x2+0-4(k2))"
    isBlank (some text) = false ∧
      read (some text) usual = .ok
        { times := 2, faces := 8, keep := some 2, lowest := true, multiplier := 3,
          modifier := -4 } := by
  intro text
  have solid : isBlank (some text) = false := by decide
  obtain ⟨-, long_iff, reads⟩ := read_first_values solid usual
  have short : ¬ ∃ digits, FirstTooLong (Envelope.split (strip text.toList)).count
      (((Lexeme.scan (Envelope.split (strip text.toList)).body).map Lexeme.token).flatMap
        Token.mentions) digits := by
    intro tooLong
    rcases long_iff.mp tooLong with long | ⟨before, mention, after, place, -, long⟩
    · exact absurd long (by decide)
    · have lengths : ∀ mention ∈ mentions text.toList,
          mention.digits.length ≤ Numeral.maxDigits := by
        decide +kernel
      rw [mentions, place] at lengths
      have := lengths mention List.mem_append_cons_self
      omega
  exact ⟨solid, (reads short).trans (by decide +kernel)⟩

end Command

end DiceTower
