import DiceTower.Proofs.TokenText

/-!
# Tokens that are found

A token that is found at the start of a text is written there (`Token.exists_spells_of_first?`), so
the text of a lexeme stands in the body at the place of the lexeme
(`Lexeme.exists_split_of_mem_scan`).

No token holds an opening parenthesis after its first character, so a token that starts before a
keep clause ends before it, and every keep clause of a body is found
(`Lexeme.keep_mem_scan_iff`).
-/

namespace DiceTower

open DiceTower.Text

namespace Token

/-! ## A token that is found is written there -/

/-- The text starts with a writing of the token. -/
def Starts (token : Token) (text : List Char) : Prop :=
  ∃ spelled rest, token.Spells spelled ∧ text = spelled ++ rest

variable {token : Token} {text : List Char}

theorem wholeNumber?_eq_some {digits : List Char} (found : wholeNumber? text = some digits) :
    AllDigits digits ∧ digits ≠ [] ∧ ∃ rest, text = digits ++ rest := by
  unfold wholeNumber? at found
  cases span : spanDigits text with
  | mk run rest =>
    obtain ⟨all, rfl⟩ := eq_append_of_spanDigits span
    simp only [span, Option.ite_none_left_eq_some, Bool.or_eq_true, not_or,
      List.isEmpty_iff] at found
    obtain ⟨⟨nonempty, -⟩, same⟩ := found
    cases same
    exact ⟨all, nonempty, rest, rfl⟩

theorem starts_of_dice? (found : dice? text = some token) : token.Starts text := by
  unfold dice? at found
  split at found
  · rename_i times letter rest span
    obtain ⟨timesDigits, rfl⟩ := eq_append_of_spanDigits span
    split at found
    · rename_i die
      cases found
      cases faces : spanDigits rest with
      | mk run tail =>
        obtain ⟨facesDigits, rfl⟩ := eq_append_of_spanDigits faces
        exact ⟨times ++ letter :: run, tail, .dice timesDigits die facesDigits, by simp⟩
    · cases found
  · cases found

theorem starts_of_keep? (found : keep? text = some token) : token.Starts text := by
  unfold keep? at found
  split at found
  · rename_i letter rest
    split at found
    · rename_i kept tail span
      obtain ⟨digits, rfl⟩ := eq_append_of_spanDigits span
      split at found
      · rename_i clause
        simp only [Bool.and_eq_true, Bool.not_eq_true', List.isEmpty_eq_false_iff] at clause
        cases found
        exact ⟨_, tail, .keep clause.1 digits clause.2, by simp⟩
      · cases found
    · cases found
  · cases found

theorem starts_of_select? (found : select? text = some token) : token.Starts text := by
  unfold select? at found
  split at found
  · rename_i flag rest
    split at found
    · rename_i extreme
      cases found
      exact ⟨_, rest, .select extreme, rfl⟩
    · cases found
  · cases found

theorem starts_of_multiplier? (found : multiplier? text = some token) : token.Starts text := by
  unfold multiplier? at found
  split at found
  · rename_i letter rest
    split at found
    · rename_i times
      obtain ⟨factor, number, rfl⟩ := Option.map_eq_some_iff.mp found
      obtain ⟨digits, nonempty, tail, rfl⟩ := wholeNumber?_eq_some number
      exact ⟨_, tail, .multiplier times digits nonempty, rfl⟩
    · cases found
  · cases found

theorem starts_of_modifier? (found : modifier? text = some token) : token.Starts text := by
  unfold modifier? at found
  split at found
  · rename_i sign rest
    split at found
    · rename_i signed
      obtain ⟨amount, number, rfl⟩ := Option.map_eq_some_iff.mp found
      obtain ⟨digits, nonempty, tail, after⟩ := wholeNumber?_eq_some number
      have blanks : allBlank (rest.takeWhile isBlank) = true :=
        List.all_eq_true.mpr fun c member => List.mem_takeWhile_imp member
      refine ⟨_, tail, .modifier signed blanks digits nonempty, ?_⟩
      rw [List.cons_append, List.append_assoc, ← after, List.takeWhile_append_dropWhile]
    · cases found
  · cases found

theorem starts_of_first? (found : first? text = some token) : token.Starts text := by
  simp only [first?, Option.orElse_eq_orElse, Option.orElse_eq_or, Option.or_eq_some_iff] at found
  rcases found with dice | ⟨-, keep | ⟨-, select | ⟨-, multiplier | ⟨-, modifier⟩⟩⟩⟩
  · exact starts_of_dice? dice
  · exact starts_of_keep? keep
  · exact starts_of_select? select
  · exact starts_of_multiplier? multiplier
  · exact starts_of_modifier? modifier

/-! ## Tokens and parentheses -/

/-- Only its first character can be the parenthesis that opens a keep clause. -/
theorem Spells.opening_not_mem_tail {spelled : List Char} (spells : token.Spells spelled) :
    '(' ∉ spelled.tail := by
  cases spells with
  | @dice times faces letter timesDigits die facesDigits =>
    intro member
    have held : '(' ∈ times ++ letter :: faces := List.mem_of_mem_tail member
    rw [List.mem_append, List.mem_cons] at held
    rcases held with held | rfl | held
    · exact timesDigits.not_mem rfl held
    · cases die
    · exact facesDigits.not_mem rfl held
  | @keep kept letter isKeep digits nonempty =>
    rw [List.tail_cons, List.mem_cons, List.mem_append, List.mem_singleton]
    rintro (rfl | held | same)
    · cases isKeep
    · exact digits.not_mem rfl held
    · cases same
  | @select flag extreme =>
    rw [List.tail_cons, List.mem_singleton]
    rintro rfl
    cases extreme
  | multiplier times digits nonempty => exact digits.not_mem rfl
  | modifier signed blanks digits nonempty =>
    rw [List.tail_cons, List.mem_append]
    rintro (held | held)
    · cases List.all_eq_true.mp blanks _ held
    · exact digits.not_mem rfl held

/-- A token that starts before an opening parenthesis ends before it. -/
theorem width_le_of_opening {front rest : List Char} (nonempty : front ≠ [])
    (found : first? (front ++ '(' :: rest) = some token) : token.width ≤ front.length := by
  obtain ⟨spelled, after, spells, text⟩ := starts_of_first? found
  rw [← spells.length_eq]
  by_contra long
  obtain ⟨head, tail, rfl⟩ := List.exists_cons_of_ne_nil nonempty
  rcases List.append_eq_append_iff.mp text with ⟨reach, rfl, shape⟩ | ⟨left, cut, -⟩
  · cases reach with
    | nil =>
      rw [List.append_nil] at long
      exact long (Nat.le_refl _)
    | cons opening more =>
      obtain ⟨rfl, -⟩ := List.cons.inj shape
      exact spells.opening_not_mem_tail (List.mem_append_right tail List.mem_cons_self)
  · rw [cut, List.length_append] at long
    exact long (Nat.le_add_right _ _)

theorem first?_keep {kept clause : List Char} (spells : Token.Spells (.keep kept) clause)
    (rest : List Char) : first? (clause ++ rest) = some (.keep kept) := by
  cases spells with
  | keep isKeep digits nonempty =>
    rw [List.cons_append, List.cons_append, List.append_assoc, List.singleton_append, first?,
      dice?_cons_eq_none _ rfl rfl, keep?_append rest isKeep digits nonempty]
    rfl

end Token

namespace Lexeme

/-- The text of a lexeme stands in the body, at the place of the lexeme. -/
theorem exists_split_of_mem_scanFrom {inside position : Nat} {text : List Char} {lexeme : Lexeme}
    (found : lexeme ∈ scanFrom inside position text) :
    ∃ before after, lexeme.start = position + before.length ∧
      text = before ++ (lexeme.text ++ after) := by
  induction text generalizing inside position with
  | nil =>
    rw [scanFrom_nil] at found
    cases found
  | cons head rest hypothesis =>
    have later : ∀ {inside}, lexeme ∈ scanFrom inside (position + 1) rest →
        ∃ before after, lexeme.start = position + before.length ∧
          head :: rest = before ++ (lexeme.text ++ after) := by
      intro inside found
      obtain ⟨before, after, start, rfl⟩ := hypothesis found
      exact ⟨head :: before, after, by rw [start, List.length_cons]; omega, rfl⟩
    cases inside with
    | succ inside => exact later found
    | zero =>
      rw [scanFrom] at found
      split at found
      · rename_i token first
        rcases List.mem_cons.mp found with rfl | found
        · exact ⟨[], (head :: rest).drop token.width, rfl,
            (List.take_append_drop token.width (head :: rest)).symm⟩
        · exact later found
      · exact later found

/-- A keep clause is found wherever it stands: no token before it runs into it. -/
theorem keep_mem_scanFrom {kept clause : List Char} (spells : Token.Spells (.keep kept) clause)
    (before after : List Char) {inside : Nat} (position : Nat) (outside : inside ≤ before.length) :
    ⟨position + before.length, clause, .keep kept⟩ ∈
      scanFrom inside position (before ++ (clause ++ after)) := by
  induction before generalizing inside position with
  | nil =>
    obtain rfl : inside = 0 := Nat.le_zero.mp outside
    have found := Token.first?_keep spells after
    have width := spells.length_eq
    obtain ⟨head, tail, rfl⟩ := List.exists_cons_of_ne_nil spells.ne_nil
    rw [List.nil_append, List.cons_append, scanFrom, ← List.cons_append, found]
    dsimp only
    rw [← width, List.take_left]
    exact List.mem_cons_self
  | cons head before hypothesis =>
    rw [List.length_cons] at outside
    have later : ∀ {inside}, inside ≤ before.length →
        ⟨position + (head :: before).length, clause, .keep kept⟩ ∈
          scanFrom inside (position + 1) (before ++ (clause ++ after)) := by
      intro inside outside
      rw [List.length_cons, Nat.add_comm before.length, ← Nat.add_assoc]
      exact hypothesis (position + 1) outside
    cases inside with
    | succ inside => exact later (by omega)
    | zero =>
      rw [List.cons_append, scanFrom]
      split
      · rename_i token found
        obtain ⟨letter, digits, rfl⟩ : ∃ letter rest, clause = '(' :: letter :: rest := by
          cases spells
          exact ⟨_, _, rfl⟩
        have short := Token.width_le_of_opening (List.cons_ne_nil head before) found
        rw [List.length_cons] at short
        exact List.mem_cons_of_mem _ (later (by omega))
      · exact later (Nat.zero_le _)

/-- The lexemes of keep clauses are the keep clauses of the body, each at its place. -/
theorem keep_mem_scan_iff {kept clause body : List Char} {place : Nat}
    (spells : Token.Spells (.keep kept) clause) :
    ⟨place, clause, .keep kept⟩ ∈ scan body ↔
      ∃ before after, before.length = place ∧ body = before ++ (clause ++ after) := by
  constructor
  · intro found
    obtain ⟨before, after, start, rfl⟩ := exists_split_of_mem_scanFrom found
    rw [Nat.zero_add] at start
    exact ⟨before, after, start.symm, rfl⟩
  · rintro ⟨before, after, rfl, rfl⟩
    have found := keep_mem_scanFrom spells before after 0 (Nat.zero_le before.length)
    rw [Nat.zero_add] at found
    exact found

end Lexeme

end DiceTower
