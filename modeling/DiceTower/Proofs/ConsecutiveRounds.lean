import DiceTower.Proofs.Redrawing
import DiceTower.Proofs.Wording

/-!
# Consecutive rounds

Rounds share nothing but the source. A roll of several rounds is therefore a roll of the first ones
followed by a roll of the others from the state that the first have left the source in: the calls
and the outcomes come one after the other, and the totals add up. The lines do so too, but the
others count their outcomes anew, so `Report.renumbered` raises the numbers in them.

The main statement is `Command.evaluate_consecutive`.
-/

namespace DiceTower

open DiceTower.Text

namespace Report

/-- The words before the number of an outcome. -/
def totalWords : String :=
  "The total of outcome #"

/-- A line with the number of its outcome raised. Only the line with the total of an outcome has
such a number. -/
def renumbered (shift : Nat) (line : String) : String :=
  if totalWords.toList.isPrefixOf line.toList then
    let (digits, rest) := spanDigits (line.toList.drop totalWords.toList.length)
    String.ofList (totalWords.toList ++ Nat.toDigits 10 (Numeral.value digits + shift) ++ rest)
  else
    line

theorem toList_text_roundTotal (number : Nat) (total : Int) :
    (Remark.roundTotal number total).text.toList =
      totalWords.toList ++ (Nat.toDigits 10 number ++ (" is " ++ toString total).toList) := by
  rw [Remark.text_roundTotal, String.append_assoc, String.append_assoc, String.toList_append,
    String.toList_append, Numeral.toList_toString_ofNat, totalWords]

theorem renumbered_total (shift number : Nat) (total : Int) :
    renumbered shift (Remark.roundTotal number total).text =
      (Remark.roundTotal (number + shift : Nat) total).text := by
  have stops : ∀ c ∈ (" is " ++ toString total).toList.head?, isDigit c = false := by
    intro c member
    rw [String.toList_append] at member
    cases member
    rfl
  have isTotal :
      totalWords.toList.isPrefixOf (Remark.roundTotal number total).text.toList = true := by
    rw [toList_text_roundTotal, List.isPrefixOf_iff_prefix]
    exact List.prefix_append _ _
  rw [← String.toList_inj, renumbered, if_pos isTotal, toList_text_roundTotal,
    toList_text_roundTotal, List.drop_left,
    spanDigits_append_of_allDigits (Numeral.allDigits_toDigits number) stops]
  dsimp only
  rw [Numeral.value_toDigits, String.toList_ofList, List.append_assoc]

/-- A line that starts with another letter stays as it is. -/
theorem renumbered_of_ne {remark : Remark} (other : remark.firstLetter ≠ 'T') (shift : Nat) :
    renumbered shift remark.text = remark.text := by
  rcases remark.exists_toList_text with ⟨rest, starts⟩
  have noTotal : totalWords.toList.isPrefixOf remark.text.toList = false := by
    have letters : totalWords.toList = 'T' :: totalWords.toList.tail := rfl
    rw [starts, letters, List.isPrefixOf_cons_cons, beq_false_of_ne other.symm, Bool.false_and]
  rw [renumbered, noTotal]
  rfl

theorem map_renumbered_of_ne {remarks : List Remark}
    (others : ∀ remark ∈ remarks, remark.firstLetter ≠ 'T') (shift : Nat) :
    (remarks.map Remark.text).map (renumbered shift) = remarks.map Remark.text := by
  rw [List.map_map]
  exact List.map_congr_left fun remark member => renumbered_of_ne (others remark member) shift

end Report

namespace Command

variable {command : Command}

/-- Rounds that are counted from a later number on tell the same, but for the numbers. -/
theorem linesOf_renumbered (shift number : Nat) (draws : List Draw) :
    command.linesOf (number + shift : Nat) draws =
      (command.linesOf number draws).map (Report.renumbered shift) := by
  induction draws generalizing number with
  | nil => rfl
  | cons draw draws hypothesis =>
    have dice : ∀ remark ∈ Remark.diceSteps command draw, remark.firstLetter ≠ 'T' := by
      intro remark member total
      have letters := Remark.firstLetter_of_mem_diceSteps member
      rw [total] at letters
      revert letters
      decide
    have sums : ∀ remark ∈ Remark.accountSteps command draw, remark.firstLetter ≠ 'T' := by
      intro remark member
      rw [Remark.firstLetter_of_mem_accountSteps member]
      decide
    have next := hypothesis (number + 1)
    rw [Nat.add_right_comm, Int.natCast_succ, Int.natCast_succ] at next
    rw [linesOf_cons, linesOf_cons, List.map_append, List.map_append, List.map_cons,
      Report.map_renumbered_of_ne dice, Report.map_renumbered_of_ne sums,
      Report.renumbered_total, next]

/-- The command with another number of rounds. -/
def forRounds (command : Command) (rounds : Int) : Command :=
  { command with rounds }

theorem sameDice_forRounds (command : Command) (rounds : Int) :
    SameDice (command.forRounds rounds) command :=
  ⟨rfl, rfl, rfl⟩

theorem outcomeOf_forRounds (command : Command) (rounds : Int) :
    (command.forRounds rounds).outcomeOf = command.outcomeOf :=
  rfl

theorem linesOf_forRounds (command : Command) (rounds number : Int) (draws : List Draw) :
    (command.forRounds rounds).linesOf number draws = command.linesOf number draws := by
  induction draws generalizing number with
  | nil => rfl
  | cons draw draws hypothesis =>
    rw [linesOf_cons, linesOf_cons, hypothesis]
    rfl

variable {σ : Type} {source : Source σ} {state : σ} {text : Option String}

/-- Rolled in one go, the rounds draw what they draw when the first ones are rolled before the
others. -/
theorem Unrolled.draws_eq_append {first second : Nat} {whole before after : Report}
    {draws drawsBefore drawsAfter : List Draw}
    (unrolled : Unrolled source (command.forRounds (first + second)) text state whole draws)
    (unrolledBefore : Unrolled source (command.forRounds first) text state before drawsBefore)
    (unrolledAfter : Unrolled source (command.forRounds second) text
      (((command.forRounds first).evaluate source text).run state).source after drawsAfter) :
    draws = drawsBefore ++ drawsAfter ∧
      (((command.forRounds (first + second)).evaluate source text).run state).source =
        (((command.forRounds second).evaluate source text).run
          (((command.forRounds first).evaluate source text).run state).source).source := by
  have drawn := unrolled.drawn.congr (command.sameDice_forRounds _)
  have drawnInTurn := (unrolledBefore.drawn.congr (command.sameDice_forRounds _)).append
    (unrolledAfter.drawn.congr (command.sameDice_forRounds _))
  have lengthBefore : drawsBefore.length = first := unrolledBefore.length
  have lengthAfter : drawsAfter.length = second := unrolledAfter.length
  have length : draws.length = (drawsBefore ++ drawsAfter).length := by
    rw [List.length_append, lengthBefore, lengthAfter]
    exact unrolled.length
  exact drawn.unique drawnInTurn length

/-- A roll of several rounds is a roll of the first ones and, from the state that these leave the
source in, one of the others: the calls and the outcomes follow each other, the totals add up, and
the lines follow each other with the outcomes numbered throughout and one grand total at the
end. -/
theorem evaluate_consecutive (first second : Nat) {whole before after : Report}
    (answered : (((command.forRounds (first + second)).evaluate source text).run state).result =
      .ok whole)
    (answeredBefore : (((command.forRounds first).evaluate source text).run state).result =
      .ok before)
    (answeredAfter : (((command.forRounds second).evaluate source text).run
      (((command.forRounds first).evaluate source text).run state).source).result = .ok after) :
    let ran := ((command.forRounds (first + second)).evaluate source text).run state
    let ranBefore := ((command.forRounds first).evaluate source text).run state
    let ranAfter := ((command.forRounds second).evaluate source text).run ranBefore.source
    ran.calls = ranBefore.calls ++ ranAfter.calls ∧ ran.source = ranAfter.source ∧
      whole.outcomes = before.outcomes ++ after.outcomes ∧
      whole.total = before.total + after.total ∧
      text.elim (command.forRounds (first + second)).write .ok = .ok whole.text ∧
      whole.lines = before.lines.dropLast ++
        after.lines.dropLast.map (Report.renumbered first) ++
        ["The result of " ++ whole.text ++ " is " ++ toString (before.total + after.total)] := by
  intro ran ranBefore ranAfter
  rcases exists_unrolled answered with ⟨draws, unrolled⟩
  rcases exists_unrolled answeredBefore with ⟨drawsBefore, unrolledBefore⟩
  rcases exists_unrolled answeredAfter with ⟨drawsAfter, unrolledAfter⟩
  have lengthBefore : drawsBefore.length = first := unrolledBefore.length
  rcases unrolled.draws_eq_append unrolledBefore unrolledAfter with ⟨rfl, sources⟩
  have outcomes : whole.outcomes = before.outcomes ++ after.outcomes := by
    rw [unrolled.outcomes_eq, unrolledBefore.outcomes_eq, unrolledAfter.outcomes_eq,
      outcomeOf_forRounds, outcomeOf_forRounds, outcomeOf_forRounds, List.map_append]
  have total : whole.total = before.total + after.total := by
    rw [Report.total, outcomes, Outcome.grandTotal_append]
    rfl
  have callsOf : ∀ rounds, (command.forRounds rounds).callsOf = command.callsOf := fun rounds =>
    funext (command.sameDice_forRounds rounds).callsOf_eq
  refine ⟨?_, sources, outcomes, total, unrolled.named, ?_⟩
  · rw [unrolled.calls, unrolledBefore.calls, unrolledAfter.calls, callsOf, callsOf, callsOf]
    exact List.flatMap_append
  · have counted := command.linesOf_renumbered first 1 drawsAfter
    have place : 1 + (drawsBefore.length : Int) = ((1 + first : Nat) : Int) := by omega
    rw [unrolled.lines_eq, unrolledBefore.lines_eq, unrolledAfter.lines_eq, linesOf_forRounds,
      linesOf_forRounds, linesOf_forRounds, linesOf_append, place, counted, total,
      List.dropLast_concat, List.dropLast_concat]
    rfl

/-- Three rounds with a die kept of two, as one round and then two more. -/
theorem evaluate_consecutive_of_one_and_two :
    let command : Command := ⟨2, 6, some 1, false, false, 2, 1, 1⟩
    let text := some "thrice"
    let ran := ((command.forRounds 3).evaluate .counting text).run 4
    let ranBefore := ((command.forRounds 1).evaluate .counting text).run 4
    let ranAfter := ((command.forRounds 2).evaluate .counting text).run ranBefore.source
    ∃ whole before after, ran.result = .ok whole ∧ ranBefore.result = .ok before ∧
      ranAfter.result = .ok after ∧ before.total = 11 ∧ after.total = 18 ∧
      ran.calls = ranBefore.calls ++ ranAfter.calls ∧
      whole.outcomes = before.outcomes ++ after.outcomes ∧
      whole.total = before.total + after.total ∧
      whole.lines = before.lines.dropLast ++ after.lines.dropLast.map (Report.renumbered 1) ++
        ["The result of " ++ whole.text ++ " is " ++ toString (before.total + after.total)] := by
  intro command text ran ranBefore ranAfter
  have answers : ran.result.map Report.total = .ok 29 := by decide +kernel
  have answersBefore : ranBefore.result.map Report.total = .ok 11 := by decide +kernel
  have answersAfter : ranAfter.result.map Report.total = .ok 18 := by decide +kernel
  rcases Pipeline.map_eq_ok_iff.mp answers with ⟨whole, answered, -⟩
  rcases Pipeline.map_eq_ok_iff.mp answersBefore with ⟨before, answeredBefore, totalBefore⟩
  rcases Pipeline.map_eq_ok_iff.mp answersAfter with ⟨after, answeredAfter, totalAfter⟩
  rcases evaluate_consecutive 1 2 answered answeredBefore answeredAfter with
    ⟨calls, -, outcomes, total, -, lines⟩
  exact ⟨whole, before, after, answered, answeredBefore, answeredAfter, totalBefore, totalAfter,
    calls, outcomes, total, lines⟩

end Command

end DiceTower
