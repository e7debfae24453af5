import DiceTower.Proofs.DrawnDice
import DiceTower.Proofs.Echo

/-!
# The wording of steps

Each step of a roll is one line of text. These lemmas give the lines as they are read: fixed words
with the decimal writing of numbers between them, and rows of numbers with a separator.

The lines of a roll that answers are those of its rounds, one round after the other
(`Command.linesOf`), and a last one with the grand total (`Command.Unrolled.lines_eq`). A round
tells its dice (`Remark.diceSteps`) and what is made of them, and last its total; only this step
has the number of the round. The first letter of a line tells these parts apart.
-/

namespace DiceTower

namespace Numeral

theorem toList_toString_ofNat (n : Nat) : (toString (n : Int)).toList = Nat.toDigits 10 n :=
  Nat.toList_repr

theorem toList_toString_negSucc (n : Nat) :
    (toString (Int.negSucc n)).toList = '-' :: Nat.toDigits 10 (n + 1) := by
  change ("-" ++ (n + 1).repr).toList = _
  rw [String.toList_append, Nat.toList_repr]
  rfl

theorem toList_toString_ne_nil (n : Int) : (toString n).toList ≠ [] := by
  cases n with
  | ofNat n =>
    rw [Int.ofNat_eq_natCast, toList_toString_ofNat]
    exact Nat.toDigits_ne_nil
  | negSucc n =>
    rw [toList_toString_negSucc]
    exact List.cons_ne_nil _ _

/-- Numbers of a row after the first one, each behind a separator. -/
def followers (separator : String) (numbers : List Int) : List Char :=
  numbers.flatMap fun n => separator.toList ++ (toString n).toList

theorem followers_cons (separator : String) (n : Int) (numbers : List Int) :
    followers separator (n :: numbers) =
      separator.toList ++ ((toString n).toList ++ followers separator numbers) := by
  rw [followers, List.flatMap_cons, List.append_assoc, followers]

theorem toList_row (separator : String) (first : Int) (others : List Int) :
    (separator.intercalate ((first :: others).map toString)).toList =
      (toString first).toList ++ followers separator others := by
  induction others generalizing first with
  | nil => simp [followers]
  | cons second others hypothesis =>
    rw [List.map_cons, List.map_cons, String.intercalate_cons_cons, ← List.map_cons,
      String.toList_append, String.toList_append, hypothesis, followers_cons, List.append_assoc]

end Numeral

namespace Phrase

theorem text_nil : text [] = "" :=
  String.join_nil

theorem text_cons (piece : Piece) (phrase : Phrase) :
    text (piece :: phrase) = piece.text ++ text phrase :=
  String.join_cons

theorem separated_cons_cons (separator : String) (first second : Int) (others : List Int) :
    separated separator (first :: second :: others) =
      .number first :: .words separator :: separated separator (second :: others) :=
  rfl

theorem text_separated (separator : String) (numbers : List Int) :
    text (separated separator numbers) = separator.intercalate (numbers.map toString) := by
  induction numbers with
  | nil => exact text_nil.trans String.intercalate_nil.symm
  | cons first others hypothesis =>
    cases others with
    | nil => simp [separated, text_cons, text_nil, Piece.text]
    | cons second others =>
      rw [separated_cons_cons, text_cons, text_cons, hypothesis]
      simp [Piece.text, String.append_assoc]

end Phrase

namespace Remark

theorem text_thrown (number value : Int) :
    (thrown number value).text = "Roll #" ++ toString number ++ ": " ++ toString value := by
  simp [text, phrase, Phrase.text_cons, Phrase.text_nil, Piece.text, String.append_assoc]

theorem text_kept (keep times : Int) (dice : List Int) :
    (kept keep times dice).text = "Keeping " ++ toString keep ++ " of " ++ toString times ++
      " rolls: " ++ ", ".intercalate (dice.map toString) := by
  rw [text, phrase, Phrase.text_append, Phrase.text_separated]
  simp [Phrase.text_cons, Phrase.text_nil, Piece.text, String.append_assoc]

theorem text_selected (extreme : Command.Extreme) (value : Int) :
    (selected extreme value).text =
      "Selecting the " ++ extremeWord extreme ++ " roll: " ++ toString value := by
  simp [text, phrase, Phrase.text_cons, Phrase.text_nil, Piece.text, String.append_assoc]

theorem text_summed (rolls : List Int) (sum : Int) :
    (summed rolls sum).text = "Adding up all the rolls: " ++
      " + ".intercalate (rolls.map toString) ++ " = " ++ toString sum := by
  rw [text, phrase, Phrase.text_append, Phrase.text_append, Phrase.text_separated]
  simp [Phrase.text_cons, Phrase.text_nil, Piece.text, String.append_assoc]

theorem text_multiplied (sum factor : Int) :
    (multiplied sum factor).text = "Applying the multiplier: " ++ toString sum ++ " x " ++
      toString factor ++ " = " ++ toString (sum * factor) := by
  simp [text, phrase, Phrase.text_cons, Phrase.text_nil, Piece.text, String.append_assoc]

theorem text_modified (sum modifier : Int) :
    (modified sum modifier).text = "Adding the modifier: " ++ toString sum ++ " + " ++
      toString modifier ++ " = " ++ toString (sum + modifier) := by
  simp [text, phrase, Phrase.text_cons, Phrase.text_nil, Piece.text, String.append_assoc]

theorem text_roundTotal (number total : Int) :
    (roundTotal number total).text =
      "The total of outcome #" ++ toString number ++ " is " ++ toString total := by
  simp [text, phrase, Phrase.text_cons, Phrase.text_nil, Piece.text, String.append_assoc]

/-- The letter that the line of a step starts with. -/
def firstLetter : Remark → Char
  | thrown .. => 'R'
  | kept .. => 'K'
  | selected .. => 'S'
  | summed .. | multiplied .. | modified .. => 'A'
  | roundTotal .. | grandTotal .. => 'T'

theorem exists_toList_text (remark : Remark) :
    ∃ rest, remark.text.toList = remark.firstLetter :: rest := by
  cases remark with
  | thrown number value => rw [text_thrown]; simp [firstLetter]
  | kept keep times dice => rw [text_kept]; simp [firstLetter]
  | selected extreme value => rw [text_selected]; simp [firstLetter]
  | summed rolls sum => rw [text_summed]; simp [firstLetter]
  | multiplied sum factor => rw [text_multiplied]; simp [firstLetter]
  | modified sum modifier => rw [text_modified]; simp [firstLetter]
  | roundTotal number total => rw [text_roundTotal]; simp [firstLetter]
  | grandTotal text total => rw [text_grandTotal]; simp [firstLetter]

/-! ## The steps of a round -/

/-- The steps of a round that tell its dice. -/
def diceSteps (command : Command) (draw : Draw) : List Remark :=
  throws draw.dice ++ keepSteps command draw.kept ++ selectSteps command draw.kept

/-- The steps of a round that tell what is made of its dice, without the total. -/
def accountSteps (command : Command) (draw : Draw) : List Remark :=
  sumSteps command (command.counted draw.kept) ++
    multiplySteps command (sumOf (command.counted draw.kept)) ++
    modifySteps command (command.multiplied (sumOf (command.counted draw.kept)))

/-- The number of a round occurs in its last step only. -/
theorem ofRound_eq (command : Command) (number : Int) (draw : Draw) :
    ofRound command number draw.dice draw.kept =
      diceSteps command draw ++ accountSteps command draw ++
        [roundTotal number (command.outcomeOf draw).total] := by
  simp only [ofRound, reckoning, diceSteps, accountSteps, List.append_assoc]
  rfl

theorem firstLetter_of_mem_diceSteps {command : Command} {draw : Draw} {remark : Remark}
    (member : remark ∈ diceSteps command draw) : remark.firstLetter ∈ ['R', 'K', 'S'] := by
  rcases List.mem_append.mp member with member | selection
  · rcases List.mem_append.mp member with throw | choice
    · rcases List.mem_mapIdx.mp throw with ⟨place, inside, rfl⟩
      simp [firstLetter]
    · rw [keepSteps, Option.mem_toList, Option.map_eq_some_iff] at choice
      rcases choice with ⟨keep, -, rfl⟩
      simp [firstLetter]
  · rw [selectSteps, Option.mem_toList, Option.map_eq_some_iff] at selection
    rcases selection with ⟨chosen, -, rfl⟩
    simp [firstLetter]

theorem firstLetter_of_mem_accountSteps {command : Command} {draw : Draw} {remark : Remark}
    (member : remark ∈ accountSteps command draw) : remark.firstLetter = 'A' := by
  rcases List.mem_append.mp member with member | addition
  · rcases List.mem_append.mp member with sum | product
    · unfold sumSteps at sum
      split at sum
      · rw [List.mem_singleton.mp sum, firstLetter]
      · cases sum
    · unfold multiplySteps at product
      split at product
      · rw [List.mem_singleton.mp product, firstLetter]
      · cases product
  · unfold modifySteps at addition
    split at addition
    · rw [List.mem_singleton.mp addition, firstLetter]
    · cases addition

end Remark

namespace Command

variable {command : Command}

/-- The lines of the rounds from a number on with their draws. -/
def linesOf (command : Command) (number : Int) (draws : List Draw) : List String :=
  ((command.roundsOf number draws).map Prod.snd).flatten.map Remark.text

theorem linesOf_cons (number : Int) (draw : Draw) (draws : List Draw) :
    command.linesOf number (draw :: draws) =
      (Remark.diceSteps command draw).map Remark.text ++
        ((Remark.accountSteps command draw).map Remark.text ++
          (Remark.roundTotal number (command.outcomeOf draw).total).text ::
            command.linesOf (number + 1) draws) := by
  rw [linesOf, roundsOf, List.map_cons, List.flatten_cons, List.map_append, roundOf]
  dsimp only
  rw [Remark.ofRound_eq, List.map_append, List.map_append, List.append_assoc, List.append_assoc]
  rfl

theorem linesOf_append (number : Int) (draws more : List Draw) :
    command.linesOf number (draws ++ more) =
      command.linesOf number draws ++ command.linesOf (number + draws.length) more := by
  induction draws generalizing number with
  | nil => simp [linesOf, roundsOf]
  | cons draw draws hypothesis =>
    have place : number + 1 + (draws.length : Int) = number + (draw :: draws).length := by
      rw [List.length_cons]
      omega
    rw [List.cons_append, linesOf_cons, linesOf_cons, hypothesis, place]
    simp only [List.append_assoc, List.cons_append]

variable {σ : Type} {source : Source σ} {state : σ} {text : Option String} {report : Report}
  {draws : List Draw}

theorem Unrolled.lines_eq (unrolled : Unrolled source command text state report draws) :
    report.lines = command.linesOf 1 draws ++
      ["The result of " ++ report.text ++ " is " ++ toString report.total] := by
  rw [Report.lines, unrolled.remarks_eq, List.map_append, ← Remark.text_grandTotal]
  rfl

end Command

end DiceTower
