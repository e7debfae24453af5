import DiceTower.Proofs.ExecutionSteps
import DiceTower.Proofs.Readable

/-!
# The numbers a text mentions

The tokens of a text mention numbers for the parts of a command. A mention is converted only if its
part is still open, that is if every earlier mention of the part is zero (`OpenAfter`). Seen by its
parts, the draft of a row of tokens comes from their mentions one by one (`Draft.get_gather`).

`Command.Converted` says which numbers reading a text comes to convert. These and no others have to
be short enough, so reading is total but for them (`Command.read_total`).
-/

namespace DiceTower

open DiceTower.Text

/-- The parts of a round that a number can be given for. -/
inductive Part where
  | times
  | faces
  | keep
  | multiplier
  | modifier
deriving DecidableEq

/-- A number that a token gives for a part, by its digits. -/
structure Mention where
  part : Part
  digits : List Char
  negative : Bool := false

/-- The number that is mentioned. -/
def Mention.value (mention : Mention) : Int :=
  if mention.negative then -Numeral.value mention.digits else Numeral.value mention.digits

/-- The numbers of a token, in the order in which they are converted. -/
def Token.mentions : Token → List Mention
  | dice times faces => [⟨.times, times, false⟩, ⟨.faces, faces, false⟩]
  | keep kept => [⟨.keep, kept, false⟩]
  | select _ => []
  | multiplier factor => [⟨.multiplier, factor, false⟩]
  | modifier sign _ amount => [⟨.modifier, amount, sign == '-'⟩]

/-- No number other than zero has been mentioned for the part. -/
def OpenAfter (mentions : List Mention) (part : Part) : Prop :=
  ∀ mention ∈ mentions, mention.part = part → mention.value = 0

theorem OpenAfter.nil (part : Part) : OpenAfter [] part := by
  intro mention member
  cases member

/-! ## Drafts by their parts -/

namespace Draft

/-- What a draft holds for a part; zero stands for a part that is open. -/
def get (draft : Draft) : Part → Int
  | .times => draft.times
  | .faces => draft.faces
  | .keep => draft.keep
  | .multiplier => draft.multiplier
  | .modifier => draft.modifier

/-- What is held for the parts after one more mention. -/
def note (held : Part → Int) (mention : Mention) : Except Numeral.Fault (Part → Int) :=
  if held mention.part = 0 then
    (Numeral.read mention.digits).map fun _ => Function.update held mention.part mention.value
  else
    .ok held

variable {held held' : Part → Int} {mention : Mention} {mentions : List Mention}

/-- A part is open after a mention if it was open before and the mention leaves it so. -/
theorem open_of_note (noted : note held mention = .ok held') (part : Part) :
    held' part = 0 ↔ held part = 0 ∧ (mention.part = part → mention.value = 0) := by
  unfold note at noted
  split at noted
  · rename_i wasOpen
    cases reads : Numeral.read mention.digits with
    | error fault =>
      rw [reads] at noted
      cases noted
    | ok n =>
      rw [reads] at noted
      cases noted
      dsimp only
      by_cases same : part = mention.part
      · subst same
        rw [Function.update_self]
        exact ⟨fun zero => ⟨wasOpen, fun _ => zero⟩, fun both => both.2 rfl⟩
      · rw [Function.update_of_ne same]
        exact ⟨fun zero => ⟨zero, fun other => absurd other.symm same⟩, And.left⟩
  · rename_i settled
    cases noted
    exact ⟨fun zero => ⟨zero, fun same => absurd (same ▸ zero) settled⟩, And.left⟩

theorem open_of_foldlM_note (noted : mentions.foldlM note held = .ok held') (part : Part) :
    held' part = 0 ↔ held part = 0 ∧ OpenAfter mentions part := by
  induction mentions generalizing held with
  | nil =>
    cases noted
    exact ⟨fun zero => ⟨zero, .nil part⟩, And.left⟩
  | cons first others hypothesis =>
    rw [List.foldlM_cons] at noted
    obtain ⟨middle, firstNoted, othersNoted⟩ := Pipeline.bind_eq_ok_iff.mp noted
    rw [hypothesis othersNoted, open_of_note firstNoted]
    simp [OpenAfter, and_assoc]

/-- Noting a mention fails just if its part is open and its digits are too many. -/
theorem note_eq_error_iff {fault : Numeral.Fault} :
    note held mention = .error fault ↔
      held mention.part = 0 ∧ Numeral.maxDigits < mention.digits.length ∧
        fault = .unreadable mention.digits.length := by
  rw [← Numeral.read_eq_error_iff]
  unfold note
  split
  · rename_i isOpen
    cases Numeral.read mention.digits <;> simp [Except.map, isOpen]
  · rename_i settled
    simp [settled]

/-- Noting a row of mentions fails just at the first of them whose part is open and whose digits
are too many. -/
theorem foldlM_note_eq_error_iff {fault : Numeral.Fault} :
    mentions.foldlM note held = .error fault ↔
      ∃ before mention after, mentions = before ++ mention :: after ∧
        (∃ held', before.foldlM note held = .ok held') ∧
        held mention.part = 0 ∧ OpenAfter before mention.part ∧
        Numeral.maxDigits < mention.digits.length ∧
        fault = .unreadable mention.digits.length := by
  constructor
  · intro failed
    induction mentions generalizing held with
    | nil => cases failed
    | cons first others hypothesis =>
      rw [List.foldlM_cons] at failed
      cases noted : note held first with
      | error other =>
        rw [noted] at failed
        cases failed
        obtain ⟨isOpen, long, rfl⟩ := note_eq_error_iff.mp noted
        exact ⟨[], first, others, rfl, ⟨held, rfl⟩, isOpen, .nil _, long, rfl⟩
      | ok middle =>
        rw [Pipeline.bind_of_ok noted] at failed
        obtain ⟨before, mention, after, rfl, ⟨held', passed⟩, isOpen, unsettled, long, rfl⟩ :=
          hypothesis failed
        obtain ⟨wasOpen, zero⟩ := (open_of_note noted _).mp isOpen
        refine ⟨first :: before, mention, after, rfl, ⟨held', ?_⟩, wasOpen, ?_, long, rfl⟩
        · rw [List.foldlM_cons, Pipeline.bind_of_ok noted, passed]
        · intro earlier member same
          rcases List.mem_cons.mp member with rfl | member
          · exact zero same
          · exact unsettled earlier member same
  · rintro ⟨before, mention, after, rfl, ⟨held', passed⟩, isOpen, unsettled, long, rfl⟩
    have reached := (open_of_foldlM_note passed mention.part).mpr ⟨isOpen, unsettled⟩
    rw [List.foldlM_append, Pipeline.bind_of_ok passed, List.foldlM_cons,
      note_eq_error_iff.mpr ⟨reached, long, rfl⟩]
    rfl

/-- Settling a count notes it for its part. -/
theorem note_count (draft : Draft) (part : Part) {count : Nat} (digits : List Char)
    (put : Nat → Draft) (holds : draft.get part = count)
    (puts : ∀ n : Nat, (put n).get = Function.update draft.get part n) :
    note draft.get ⟨part, digits, false⟩ = (settle count digits).map fun n => (put n).get := by
  have isOpen_iff : draft.get part = 0 ↔ count = 0 := by
    rw [holds]
    exact Int.natCast_eq_zero
  unfold note settle
  dsimp only
  by_cases isOpen : count = 0
  · rw [if_pos (isOpen_iff.mpr isOpen), if_pos isOpen]
    cases reads : Numeral.read digits with
    | error fault => rfl
    | ok n =>
      obtain ⟨-, rfl⟩ := Numeral.read_eq_ok_iff.mp reads
      exact congrArg Except.ok (puts _).symm
  · rw [if_neg (isOpen_iff.not.mpr isOpen), if_neg isOpen]
    refine congrArg Except.ok ?_
    dsimp only
    rw [puts, ← holds, Function.update_eq_self]

theorem note_modifier (draft : Draft) (sign : Char) (gap amount : List Char) :
    note draft.get ⟨.modifier, amount, sign == '-'⟩ =
      (draft.add (.modifier sign gap amount)).map get := by
  change (if draft.modifier = 0 then _ else _) =
    Except.map get (if draft.modifier = 0 then _ else _)
  by_cases isOpen : draft.modifier = 0
  · rw [if_pos isOpen, if_pos isOpen]
    cases reads : Numeral.read amount with
    | error fault => rfl
    | ok size =>
      obtain ⟨-, rfl⟩ := Numeral.read_eq_ok_iff.mp reads
      refine congrArg Except.ok ?_
      funext part
      cases part <;> rfl
  · rw [if_neg isOpen, if_neg isOpen]
    rfl

/-- A token changes the parts of a draft as its mentions do. -/
theorem map_get_add (draft : Draft) (token : Token) :
    (draft.add token).map get = token.mentions.foldlM note draft.get := by
  cases token with
  | dice times faces =>
    have timesNoted := note_count draft .times times (fun times => { draft with times }) rfl
      fun n => by funext part; cases part <;> rfl
    simp only [Token.mentions, List.foldlM_cons, List.foldlM_nil, timesNoted, bind_pure, add]
    cases settle draft.times times with
    | error fault => rfl
    | ok count =>
      have facesNoted := note_count { draft with times := count } .faces faces
        (fun faces => { draft with times := count, faces }) rfl
        fun n => by funext part; cases part <;> rfl
      refine Eq.trans ?_ facesNoted.symm
      cases settle draft.faces faces <;> rfl
  | keep kept =>
    have noted := note_count draft .keep kept (fun keep => { draft with keep }) rfl
      fun n => by funext part; cases part <;> rfl
    simp only [Token.mentions, List.foldlM_cons, List.foldlM_nil, noted, bind_pure, add]
    cases settle draft.keep kept <;> rfl
  | select flag =>
    simp only [Token.mentions, List.foldlM_nil, add]
    split <;> exact congrArg Except.ok (by funext part; cases part <;> rfl)
  | multiplier factor =>
    have noted := note_count draft .multiplier factor (fun multiplier => { draft with multiplier })
      rfl fun n => by funext part; cases part <;> rfl
    simp only [Token.mentions, List.foldlM_cons, List.foldlM_nil, noted, bind_pure, add]
    cases settle draft.multiplier factor <;> rfl
  | modifier sign gap amount =>
    simp only [Token.mentions, List.foldlM_cons, List.foldlM_nil, bind_pure]
    exact (note_modifier draft sign gap amount).symm

theorem map_get_foldlM_add (tokens : List Token) (draft : Draft) :
    (tokens.foldlM add draft).map get = (tokens.flatMap Token.mentions).foldlM note draft.get := by
  induction tokens generalizing draft with
  | nil => rfl
  | cons token tokens hypothesis =>
    rw [List.foldlM_cons, List.flatMap_cons, List.foldlM_append, ← map_get_add]
    cases draft.add token with
    | error fault => rfl
    | ok next => exact hypothesis next

/-- Seen by its parts, the draft of a row of tokens is what their mentions leave. -/
theorem map_get_gather (tokens : List Token) :
    (gather tokens).map get = (tokens.flatMap Token.mentions).foldlM note fun _ => 0 := by
  have empty : get {} = fun _ => 0 := by
    funext part
    cases part <;> rfl
  rw [gather, map_get_foldlM_add, empty]

end Draft

/-! ## Reading -/

namespace Command

/-- The numbers that the tokens of a text mention, in order. -/
def mentions (text : List Char) : List Mention :=
  ((Lexeme.scan (Envelope.split (strip text)).body).map Lexeme.token).flatMap Token.mentions

/-- The numbers that are converted when a text is read: its repeat count, and every mention of a
part that is still open. -/
inductive Converted (text : List Char) : List Char → Prop
  | count : Converted text (Envelope.split (strip text)).count
  | mention {before after : List Mention} {mention : Mention}
      (place : mentions text = before ++ mention :: after)
      (isOpen : OpenAfter before mention.part) :
    Converted text mention.digits

variable {text digits : List Char}

/-- What is converted in a text that can be read is short enough. -/
theorem length_le_of_converted {command : Command} (reads : readText text = .ok command)
    (converted : Converted text digits) : digits.length ≤ Numeral.maxDigits := by
  obtain ⟨rounds, countRead, reads⟩ := Pipeline.bind_eq_ok_iff.mp reads
  obtain ⟨draft, gathered, -⟩ := Pipeline.bind_eq_ok_iff.mp reads
  cases converted with
  | count => exact (Numeral.read_eq_ok_iff.mp countRead).1
  | @mention before after mention place isOpen =>
    by_contra long
    have noted := Draft.map_get_gather ((Lexeme.scan (Envelope.split (strip text)).body).map
      Lexeme.token)
    rw [gathered, ← mentions, place] at noted
    have front := noted.symm
    rw [List.foldlM_append] at front
    obtain ⟨held, passed, -⟩ := Pipeline.bind_eq_ok_iff.mp front
    have failed := Draft.foldlM_note_eq_error_iff.mpr ⟨before, mention, after, rfl,
      ⟨held, passed⟩, rfl, isOpen, by omega, rfl⟩
    rw [failed] at noted
    cases noted

/-- A text that cannot be read converts a number that is too long. -/
theorem exists_converted_of_unread {fault : Numeral.Fault} (unread : readText text = .error fault) :
    ∃ digits, Converted text digits ∧ Numeral.maxDigits < digits.length ∧
      fault = .unreadable digits.length := by
  unfold readText at unread
  dsimp only at unread
  cases countRead : Numeral.read (Envelope.split (strip text)).count with
  | error other =>
    rw [countRead] at unread
    cases unread
    obtain ⟨long, rfl⟩ := Numeral.read_eq_error_iff.mp countRead
    exact ⟨_, .count, long, rfl⟩
  | ok rounds =>
    rw [Pipeline.bind_of_ok countRead] at unread
    have noted := Draft.map_get_gather ((Lexeme.scan (Envelope.split (strip text)).body).map
      Lexeme.token)
    cases gathered : Draft.gather ((Lexeme.scan (Envelope.split (strip text)).body).map
        Lexeme.token) with
    | ok draft =>
      rw [Pipeline.bind_of_ok gathered] at unread
      cases unread
    | error other =>
      rw [gathered] at unread noted
      cases unread
      obtain ⟨before, mention, after, place, -, -, isOpen, long, rfl⟩ :=
        Draft.foldlM_note_eq_error_iff.mp noted.symm
      exact ⟨mention.digits, .mention place isOpen, long, rfl⟩

/-- A command that cannot be read has too many digits somewhere. -/
theorem unreadable_of_read {given : Option String} {fallback : String} {failure : Failure}
    (unread : read given fallback = .error failure) :
    ∃ count, failure = .numeral (.unreadable count) := by
  unfold read at unread
  cases result : readText (textOr given fallback).toList with
  | error fault =>
    rw [result] at unread
    cases unread
    rcases exists_converted_of_unread result with ⟨digits, -, -, rfl⟩
    exact ⟨digits.length, rfl⟩
  | ok command =>
    rw [result] at unread
    cases unread

/-- Every command reads as long as the numbers that are converted are short enough, and reading
fails for no other reason. -/
theorem read_total (given : Option String) (fallback : String) :
    ((∃ command, read given fallback = .ok command) ↔
        ∀ digits, Converted (textOr given fallback).toList digits →
          digits.length ≤ Numeral.maxDigits) ∧
      ∀ failure, read given fallback = .error failure →
        ∃ digits, Converted (textOr given fallback).toList digits ∧
          Numeral.maxDigits < digits.length ∧ failure = .numeral (.unreadable digits.length) := by
  have fails : ∀ failure, read given fallback = .error failure →
      ∃ digits, Converted (textOr given fallback).toList digits ∧
        Numeral.maxDigits < digits.length ∧ failure = .numeral (.unreadable digits.length) := by
    intro failure failed
    unfold read at failed
    cases unread : readText (textOr given fallback).toList with
    | ok command =>
      rw [unread] at failed
      cases failed
    | error fault =>
      rw [unread] at failed
      cases failed
      obtain ⟨digits, converted, long, rfl⟩ := exists_converted_of_unread unread
      exact ⟨digits, converted, long, rfl⟩
  refine ⟨⟨?_, fun short => ?_⟩, fails⟩
  · rintro ⟨command, reads⟩ digits converted
    exact length_le_of_converted (readText_of_read reads) converted
  · cases result : read given fallback with
    | ok command => exact ⟨command, rfl⟩
    | error failure =>
      obtain ⟨digits, converted, long, -⟩ := fails failure result
      have := short digits converted
      omega

/-! ## A number that is too long

Zeros in front count as digits, so a number can be too long to be read whatever its value.
-/

/-- The number of faces is converted if it is all that is mentioned. -/
theorem converted_faces {digits : List Char} (all : AllDigits digits) :
    Converted ('d' :: digits) digits := by
  have none : AllDigits [] := List.forall_mem_nil _
  have solid : Solid ('d' :: digits) := by
    refine .of_forall (List.cons_ne_nil _ _) fun c member => ?_
    rcases List.mem_cons.mp member with rfl | member
    · rfl
    · exact isBlank_eq_false_of_isDigit (all c member)
  have stripped : strip ([] ++ ('d' :: digits ++ [])) = 'd' :: digits := strip_append rfl solid rfl
  have bare : Envelope.split ([] ++ 'd' :: digits) = ⟨[] ++ 'd' :: digits, []⟩ :=
    Envelope.split_bare none rfl (.inl rfl) (by decide)
  have spelled : Spells [.dice [] digits] ('d' :: digits ++ []) :=
    .cons (.dice none rfl all) .nil .nil
  rw [List.append_nil] at stripped spelled
  rw [List.nil_append] at stripped bare
  have mentioned : mentions ('d' :: digits) =
      [⟨.times, [], false⟩] ++ ⟨.faces, digits, false⟩ :: [] := by
    rw [mentions, stripped, bare, Lexeme.map_token_scan spelled]
    rfl
  refine .mention mentioned ?_
  intro earlier member same
  rw [List.mem_singleton.mp member] at same
  cases same

theorem textOr_die (digits : List Char) (fallback : String) :
    (textOr (some (String.ofList ('d' :: digits))) fallback).toList = 'd' :: digits := by
  have solid : isBlank (some (String.ofList ('d' :: digits))) = false := by
    rw [isBlank, Option.all_some, String.toList_ofList]
    rfl
  rw [textOr_of_not_blank solid, String.toList_ofList]

/-- Not every text reads as a command. -/
theorem unreadable_text :
    ¬ ∀ (given : Option String) (fallback : String),
      ∃ command, read given fallback = .ok command := by
  intro total
  have all : AllDigits (List.replicate 4300 '0' ++ ['6']) := by
    intro c member
    rcases List.mem_append.mp member with zero | six
    · rw [List.eq_of_mem_replicate zero]
      rfl
    · rw [List.mem_singleton.mp six]
      rfl
  obtain ⟨command, reads⟩ :=
    total (some (String.ofList ('d' :: (List.replicate 4300 '0' ++ ['6'])))) usual
  have readsText := readText_of_read reads
  rw [textOr_die] at readsText
  have short := length_le_of_converted readsText (converted_faces all)
  rw [List.length_append, List.length_replicate, List.length_singleton] at short
  exact absurd short (by decide)

end Command

end DiceTower
