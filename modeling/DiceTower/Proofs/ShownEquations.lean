import DiceTower.Proofs.Arithmetic
import DiceTower.Proofs.CountedDice

/-!
# The equations that are shown

The line that gives the result of a roll shows an equation, and the steps of its rounds show others.
None of them is what the totals were computed from: the words are put together from the rolls and
the command, with conditions of their own on the multiplier and the modifier.

The side of the equation of a result is an expression (`Report.side`), so it is read as its value,
which is the sum of the totals (`Report.value_side`). For the lines of the steps,
`Outcome.ToldFrom` goes through the lines of a round with a running value, which starts at the sum
of the rolls and is moved by each equation that is told. The main statement is
`Command.evaluate_shows_equations`.
-/

namespace DiceTower

/-- The total of an outcome is what a command makes of its rolls. -/
def Outcome.Reckoned (command : Command) (outcome : Outcome) : Prop :=
  outcome.total = command.multiplied (sumOf outcome.rolls) + command.modifier

/-! ## The side of an equation -/

namespace Report

open Arithmetic

theorem toList_text_joined (separator : String) (first : Phrase) (others : List Phrase) :
    (Phrase.text (joined separator (first :: others))).toList =
      (Phrase.text first).toList ++
        others.flatMap fun phrase => separator.toList ++ (Phrase.text phrase).toList := by
  induction others generalizing first with
  | nil => simp [joined]
  | cons second others hypothesis =>
    have split : joined separator (first :: second :: others) =
        first ++ (.words separator :: joined separator (second :: others)) := rfl
    rw [split, Phrase.toList_text_append, Phrase.text_cons, String.toList_append, hypothesis,
      List.flatMap_cons, Piece.text, List.append_assoc]

/-- Rolls in brackets. -/
def diceSide : List Int → Expression .operand
  | [] => .hollow .square
  | first :: others =>
    .group .square
      (.added (.single (.number first)) (others.map fun roll => .single (.number roll)))

theorem value_diceSide (rolls : List Int) : (diceSide rolls).value = sumOf rolls := by
  cases rolls with
  | nil => rfl
  | cons first others =>
    have numbers : others.map (Expression.value ∘ fun roll => .single (.number roll)) = others :=
      List.map_id others
    rw [diceSide, Expression.value, Expression.value_added, List.map_map, numbers, sumOf_cons,
      sumOf_eq_sum]
    rfl

theorem chars_diceSide (rolls : List Int) :
    (diceSide rolls).chars = (Phrase.text (dicePart rolls)).toList := by
  have shape : (Phrase.text (dicePart rolls)).toList =
      ['[', ' '] ++ (Phrase.text (Phrase.separated " + " rolls)).toList ++ [' ', ']'] := by
    rw [dicePart, Phrase.toList_text_append, Phrase.toList_text_append]
    rfl
  rw [shape, Phrase.text_separated]
  cases rolls with
  | nil => rfl
  | cons first others =>
    rw [diceSide, Expression.chars, Expression.chars_added, List.flatMap_map, Numeral.toList_row]
    rfl

variable {command : Command}

/-- Rolls with the multiplier of a command, if it has an effect. -/
def productSide (command : Command) (rolls : List Int) : Expression .product :=
  if 1 < command.multiplier then .times (.single (diceSide rolls)) (.number command.multiplier)
  else .single (diceSide rolls)

theorem value_productSide (rolls : List Int) :
    (productSide command rolls).value = command.multiplied (sumOf rolls) := by
  unfold productSide Command.multiplied
  split
  · simp only [Expression.value, value_diceSide]
  · simp only [Expression.value, value_diceSide]

/-- Parts of a round that follow its rolls, each behind a blank. -/
def trailing (parts : List Phrase) : List Char :=
  parts.flatMap fun part => " ".toList ++ (Phrase.text part).toList

theorem trailing_singleton (sign : String) (n : Int) :
    trailing [[.words sign, .number n]] = " ".toList ++ sign.toList ++ (toString n).toList := by
  simp [trailing, Phrase.text_cons, Phrase.text_nil, Piece.text]

theorem chars_productSide (rolls : List Int) :
    (productSide command rolls).chars =
      (diceSide rolls).chars ++ trailing (multiplierPart command) := by
  unfold productSide multiplierPart
  split
  · rw [trailing_singleton]
    simp only [Expression.chars, List.append_assoc]
    rfl
  · exact (List.append_nil _).symm

/-- What is shown of a round with some rolls. -/
def roundSide (command : Command) (rolls : List Int) : Expression .sum :=
  if 0 < command.modifier then
    .plus (.term (productSide command rolls)) (.single (.number command.modifier))
  else if command.modifier < 0 then
    .minus (.term (productSide command rolls)) (.single (.number (-command.modifier)))
  else .term (productSide command rolls)

theorem value_roundSide (rolls : List Int) :
    (roundSide command rolls).value = command.multiplied (sumOf rolls) + command.modifier := by
  rw [← value_productSide]
  unfold roundSide
  split
  · rfl
  split
  · exact Int.sub_neg _ _
  · have none : command.modifier = 0 := by omega
    rw [none, Int.add_zero, Expression.value]

theorem chars_roundSide (rolls : List Int) :
    (roundSide command rolls).chars =
      (Phrase.text (joined " " (parts command rolls))).toList := by
  have chars : (roundSide command rolls).chars =
      (productSide command rolls).chars ++ trailing (modifierPart command) := by
    unfold roundSide modifierPart
    split
    · rw [trailing_singleton]
      simp only [Expression.chars, List.append_assoc]
      rfl
    split
    · rw [trailing_singleton]
      simp only [Expression.chars, List.append_assoc]
      rfl
    · exact (List.append_nil _).symm
  rw [chars, chars_productSide, chars_diceSide, parts, List.append_assoc, List.append_assoc,
    List.singleton_append, toList_text_joined, List.flatMap_append]
  rfl

/-- What is shown of a round beside others. -/
def enclosedSide (command : Command) (rolls : List Int) : Expression .product :=
  .single (.group .round (roundSide command rolls))

theorem chars_enclosedSide (rolls : List Int) :
    (enclosedSide command rolls).chars =
      (Phrase.text (enclosed (parts command rolls))).toList := by
  rw [enclosed, Phrase.toList_text_append, Phrase.toList_text_append, ← chars_roundSide]
  rfl

/-- The side of the equation that shows rounds with some rolls. -/
def side (command : Command) (first : List Int) : (others : List (List Int)) → Expression .sum
  | [] => roundSide command first
  | second :: others =>
    .added (enclosedSide command first) ((second :: others).map (enclosedSide command))

theorem value_side (first : List Int) (others : List (List Int)) :
    (side command first others).value = ((first :: others).map fun rolls =>
      command.multiplied (sumOf rolls) + command.modifier).sum := by
  have enclosed : Expression.value ∘ enclosedSide command = fun rolls =>
      command.multiplied (sumOf rolls) + command.modifier :=
    funext value_roundSide
  cases others with
  | nil => rw [side, value_roundSide, List.map_singleton, List.sum_singleton]
  | cons second others =>
    rw [side, Expression.value_added, List.map_map, enclosed, List.map_cons, List.sum_cons]
    exact congrArg (· + _) (value_roundSide first)

theorem text_equation (first : List Int) (others : List (List Int)) (total : Int) :
    Phrase.text (equation ((first :: others).map (parts command)) total) =
      (side command first others).text ++ " = " ++ toString total := by
  have stated : (Phrase.text ([" = ", total] : Phrase)).toList =
      (" = " ++ toString total).toList := by
    simp [Phrase.text_cons, Phrase.text_nil, Piece.text]
  rw [← String.toList_inj, String.append_assoc, String.toList_append, Expression.text,
    String.toList_ofList]
  cases others with
  | nil =>
    rw [List.map_singleton, equation, Phrase.toList_text_append, stated, side, chars_roundSide]
  | cons second others =>
    have several : equation ((first :: second :: others).map (parts command)) total =
        joined " + " (enclosed (parts command first) ::
          ((second :: others).map (parts command)).map enclosed) ++ ([" = ", total] : Phrase) := rfl
    rw [several, Phrase.toList_text_append, stated, toList_text_joined, side,
      Expression.chars_added, chars_enclosedSide, List.map_map, List.flatMap_map, List.flatMap_map]
    simp only [Function.comp_apply, chars_enclosedSide]
    rfl

/-- The equation of rounds that come to the totals of their rolls is true. -/
theorem exists_text_equation {outcomes : List Outcome} (some_round : outcomes ≠ [])
    (reckoned : ∀ outcome ∈ outcomes, outcome.Reckoned command) :
    ∃ side, Phrase.text (equation (outcomes.map fun outcome => parts command outcome.rolls)
        (Outcome.grandTotal outcomes)) = side ++ " = " ++ toString (Outcome.grandTotal outcomes) ∧
      value? side = some (Outcome.grandTotal outcomes) := by
  cases outcomes with
  | nil => exact absurd rfl some_round
  | cons first others =>
    refine ⟨(side command first.rolls (others.map Outcome.rolls)).text, ?_, ?_⟩
    · rw [← text_equation, ← List.map_cons, List.map_map]
      rfl
    · have totals : (first :: others).map Outcome.total = (first :: others).map fun outcome =>
          command.multiplied (sumOf outcome.rolls) + command.modifier :=
        List.map_congr_left reckoned
      rw [value?_text, value_side, ← List.map_cons, List.map_map, Outcome.grandTotal, totals,
        sumOf_eq_sum]
      rfl

end Report

/-! ## The lines of a round -/

namespace Outcome

/-- What the lines that reckon start with. -/
def reckoningHeads : List String :=
  ["Adding up", "Applying the multiplier", "Adding the modifier", "The total of outcome"]

/-- The lines of a round from some step on, read with a running value. The number is that of the
round, and the outcome is what it comes to. -/
inductive ToldFrom (command : Command) (number : Int) (outcome : Outcome) :
    (value : Int) → (lines : List String) → Prop where
  | aside {value : Int} {line : String} {rest : List String}
      (silent : ∀ head ∈ reckoningHeads, ¬ head.toList <+: line.toList)
      (next : ToldFrom command number outcome value rest) :
      ToldFrom command number outcome value (line :: rest)
  | summed {rest : List String}
      (next : ToldFrom command number outcome outcome.rolls.sum rest) :
      ToldFrom command number outcome outcome.rolls.sum
        (("Adding up all the rolls: " ++ " + ".intercalate (outcome.rolls.map toString) ++
          " = " ++ toString outcome.rolls.sum) :: rest)
  | multiplied {value product : Int} {rest : List String}
      (equation : value * command.multiplier = product)
      (next : ToldFrom command number outcome product rest) :
      ToldFrom command number outcome value
        (("Applying the multiplier: " ++ toString value ++ " x " ++ toString command.multiplier ++
          " = " ++ toString product) :: rest)
  | modified {value sum : Int} {rest : List String}
      (equation : value + command.modifier = sum)
      (next : ToldFrom command number outcome sum rest) :
      ToldFrom command number outcome value
        (("Adding the modifier: " ++ toString value ++ " + " ++ toString command.modifier ++
          " = " ++ toString sum) :: rest)
  /-- A negative modifier is told in the total only. -/
  | total {value : Int} (ends : outcome.total = value + min command.modifier 0) :
      ToldFrom command number outcome value
        ["The total of outcome #" ++ toString number ++ " is " ++ toString outcome.total]

/-- The lines of rounds from a number on, each told from the sum of its rolls. -/
inductive AllTold (command : Command) :
    (number : Int) → (outcomes : List Outcome) → (lines : List String) → Prop where
  | nil {number : Int} : AllTold command number [] []
  | cons {number : Int} {outcome : Outcome} {outcomes : List Outcome} {lines rest : List String}
      (first : ToldFrom command number outcome outcome.rolls.sum lines)
      (others : AllTold command (number + 1) outcomes rest) :
      AllTold command number (outcome :: outcomes) (lines ++ rest)

namespace ToldFrom

variable {command : Command} {number value : Int} {outcome : Outcome} {rest : List String}

theorem asides {lines : List String}
    (silent : ∀ line ∈ lines, ∀ head ∈ reckoningHeads, ¬ head.toList <+: line.toList)
    (next : ToldFrom command number outcome value rest) :
    ToldFrom command number outcome value (lines ++ rest) := by
  induction lines with
  | nil => exact next
  | cons line lines hypothesis =>
    rcases List.forall_mem_cons.mp silent with ⟨first, others⟩
    exact .aside first (hypothesis others)

theorem sumSteps (next : ToldFrom command number outcome outcome.rolls.sum rest) :
    ToldFrom command number outcome outcome.rolls.sum
      ((Remark.sumSteps command outcome.rolls).map Remark.text ++ rest) := by
  unfold Remark.sumSteps
  split
  · rw [List.map_singleton, Remark.text_summed, sumOf_eq_sum]
    exact .summed next
  · exact next

theorem multiplySteps (next : ToldFrom command number outcome (command.multiplied value) rest) :
    ToldFrom command number outcome value
      ((Remark.multiplySteps command value).map Remark.text ++ rest) := by
  unfold Command.multiplied at next
  unfold Remark.multiplySteps
  split at next
  · rename_i effective
    rw [if_pos effective, List.map_singleton, Remark.text_multiplied]
    exact .multiplied rfl next
  · rename_i idle
    rw [if_neg idle]
    exact next

theorem modifySteps (ends : outcome.total = value + command.modifier) :
    ToldFrom command number outcome value
      ((Remark.modifySteps command value).map Remark.text ++
        [(Remark.roundTotal number outcome.total).text]) := by
  rw [Remark.text_roundTotal]
  unfold Remark.modifySteps
  split
  · rw [List.map_singleton, Remark.text_modified]
    refine .modified rfl (.total ?_)
    omega
  · refine .total ?_
    omega

end ToldFrom

/-- Only the account of a round and its total start with the words of a reckoning. -/
theorem silent_of_firstLetter {remark : Remark} (letter : remark.firstLetter ∈ ['R', 'K', 'S']) :
    ∀ head ∈ reckoningHeads, ¬ head.toList <+: remark.text.toList := by
  have initials : ∀ head ∈ reckoningHeads, ∃ c ∈ head.toList.head?, c ∉ ['R', 'K', 'S'] := by
    simp [reckoningHeads]
  intro head member leads
  rcases initials head member with ⟨c, initial, strange⟩
  rcases List.head?_eq_some_iff.mp initial with ⟨tail, starts⟩
  rcases remark.exists_toList_text with ⟨rest, told⟩
  rw [starts, told, List.cons_prefix_cons] at leads
  exact strange (leads.1 ▸ letter)

end Outcome

namespace Command

open Outcome

variable {command : Command}

theorem outcomeOf_reckoned (draw : Draw) : (command.outcomeOf draw).Reckoned command :=
  rfl

theorem toldFrom_round (number : Int) (draw : Draw) :
    ToldFrom command number (command.outcomeOf draw) (command.outcomeOf draw).rolls.sum
      ((Remark.diceSteps command draw).map Remark.text ++
        ((Remark.accountSteps command draw).map Remark.text ++
          [(Remark.roundTotal number (command.outcomeOf draw).total).text])) := by
  have dice : ∀ line ∈ (Remark.diceSteps command draw).map Remark.text,
      ∀ head ∈ reckoningHeads, ¬ head.toList <+: line.toList := by
    intro line told
    rcases List.mem_map.mp told with ⟨remark, member, rfl⟩
    exact silent_of_firstLetter (Remark.firstLetter_of_mem_diceSteps member)
  rw [Remark.accountSteps, List.map_append, List.map_append, List.append_assoc, List.append_assoc]
  exact .asides dice (.sumSteps (.multiplySteps (.modifySteps rfl)))

theorem allTold_linesOf (number : Int) (draws : List Draw) :
    AllTold command number (draws.map command.outcomeOf) (command.linesOf number draws) := by
  induction draws generalizing number with
  | nil => exact .nil
  | cons draw draws hypothesis =>
    have lines : command.linesOf number (draw :: draws) =
        (Remark.diceSteps command draw).map Remark.text ++
          ((Remark.accountSteps command draw).map Remark.text ++
            [(Remark.roundTotal number (command.outcomeOf draw).total).text]) ++
          command.linesOf (number + 1) draws := by
      rw [linesOf_cons]
      simp only [List.append_assoc, List.singleton_append]
    rw [lines, List.map_cons]
    exact .cons (toldFrom_round number draw) (hypothesis (number + 1))

/-- Every equation that a roll shows is true. The side of the equation of its result is read as the
total that is stated behind it. The lines of its steps reckon, round after round, from the sum of
the rolls to the total of the outcome. -/
theorem evaluate_shows_equations {σ : Type} {source : Source σ} {state : σ} {text : Option String}
    {report : Report}
    (answered : ((command.evaluate source text).run state).result = .ok report)
    (some_round : report.outcomes ≠ []) :
    text.elim command.write .ok = .ok report.text ∧
      (∃ side,
        report.result = "The result of " ++ report.text ++ " is " ++ side ++ " = " ++
          toString report.total ∧
        Arithmetic.value? side = some report.total) ∧
      ∃ lines,
        report.lines =
          lines ++ ["The result of " ++ report.text ++ " is " ++ toString report.total] ∧
        AllTold command 1 report.outcomes lines := by
  rcases exists_unrolled answered with ⟨draws, unrolled⟩
  have reckoned : ∀ outcome ∈ report.outcomes, outcome.Reckoned command := by
    rw [unrolled.outcomes_eq]
    exact List.forall_mem_map.mpr fun draw _ => outcomeOf_reckoned draw
  have rolled : report.command = command := by
    rw [unrolled.told]
    rfl
  refine ⟨unrolled.named, ?_, command.linesOf 1 draws, unrolled.lines_eq, ?_⟩
  · rcases Report.exists_text_equation some_round reckoned with ⟨side, shown, reads⟩
    refine ⟨side, ?_, reads⟩
    rw [Report.result_eq, rolled, Report.total, shown]
    simp only [String.append_assoc]
  · rw [unrolled.outcomes_eq]
    exact allTold_linesOf 1 draws

/-- Two rounds of a source that also rolls less than nothing, tripled, with something taken away. -/
theorem evaluate_shows_equations_of_script :
    let command : Command := ⟨2, 6, none, false, false, 3, -5, 2⟩
    let ran := (command.evaluate .scripted none).run (.cycle #[-4, 6, 3] 0 false)
    ∃ report, ran.result = .ok report ∧ report.outcomes ≠ [] ∧ report.result =
        "The result of 2x(2d6x3-5) is ([ -4 + 6 ] x 3 - 5) + ([ 3 + -4 ] x 3 - 5) = -7" ∧
      (∃ side,
        report.result = "The result of " ++ report.text ++ " is " ++ side ++ " = " ++
          toString report.total ∧
        Arithmetic.value? side = some report.total) ∧
      ∃ lines,
        report.lines =
          lines ++ ["The result of " ++ report.text ++ " is " ++ toString report.total] ∧
        AllTold command 1 report.outcomes lines := by
  intro command ran
  have answers : ran.result.map (fun report => (report.outcomes.isEmpty, report.result)) =
      .ok (false,
        "The result of 2x(2d6x3-5) is ([ -4 + 6 ] x 3 - 5) + ([ 3 + -4 ] x 3 - 5) = -7") := by
    decide +kernel
  rcases Pipeline.map_eq_ok_iff.mp answers with ⟨report, answered, told⟩
  have some_round : report.outcomes ≠ [] :=
    List.isEmpty_eq_false_iff.mp (congrArg Prod.fst told)
  exact ⟨report, answered, some_round, congrArg Prod.snd told,
    (evaluate_shows_equations answered some_round).2⟩

end Command

end DiceTower
