import DiceTower.Proofs.Wording
import Mathlib

/-!
# The dice that the lines tell

The lines of a roll are a record of its dice. A line that tells a number tells which one it is,
and a row of numbers can be taken apart at its commas (`Numeral.row_injective`); how many dice a
round throws, and whether some of them are kept by choice, is settled by the command. So the lines
of some rounds settle the dice of each of them (`Command.draws_eq_of_linesOf_eq`), and with the
dice all that a round comes to.

The main statement is `Command.outcomes_eq_of_lines_eq`. It compares rolls on any two sources.
-/

namespace DiceTower

open DiceTower.Text

namespace Numeral

theorem toString_injective {n m : Int} (same : toString n = toString m) : n = m :=
  Int.repr_injective same

/-- A number is over where a comma follows, or nothing at all. -/
theorem eq_of_toString_append {n m : Int} {rest others : List Char}
    (stops : ∀ c ∈ rest.head?, c = ',') (othersStop : ∀ c ∈ others.head?, c = ',')
    (same : (toString n).toList ++ rest = (toString m).toList ++ others) :
    n = m ∧ rest = others := by
  have split : ∀ {k : Int} {tail : List Char}, (∀ c ∈ tail.head?, c = ',') →
      ((toString k).toList ++ tail).takeWhile (· != ',') = (toString k).toList ∧
        ((toString k).toList ++ tail).dropWhile (· != ',') = tail := by
    intro k tail stops
    apply takeWhile_dropWhile_append
    · intro c member
      exact bne_iff_ne.mpr fun comma => not_mem_toString rfl (by decide) k (comma ▸ member)
    · intro c head
      exact bne_eq_false_iff_eq.mpr (stops c head)
  rcases split (k := n) stops with ⟨taken, left⟩
  rcases split (k := m) othersStop with ⟨otherTaken, otherLeft⟩
  rw [same] at taken left
  refine ⟨toString_injective ?_, left.symm.trans otherLeft⟩
  rw [← String.toList_inj]
  exact taken.symm.trans otherTaken

theorem followers_stop (numbers : List Int) :
    ∀ c ∈ (followers ", " numbers).head?, c = ',' := by
  intro c head
  cases numbers with
  | nil => cases head
  | cons n numbers =>
    cases head
    rfl

theorem followers_injective {numbers others : List Int}
    (same : followers ", " numbers = followers ", " others) : numbers = others := by
  induction numbers generalizing others with
  | nil =>
    cases others with
    | nil => rfl
    | cons m others => cases same
  | cons n numbers hypothesis =>
    cases others with
    | nil => cases same
    | cons m others =>
      rw [followers_cons, followers_cons] at same
      rcases eq_of_toString_append (followers_stop numbers) (followers_stop others)
        (List.append_cancel_left same) with ⟨rfl, rest⟩
      rw [hypothesis rest]

/-- Rows of numbers that read alike are the same, and so are empty ones. -/
theorem row_injective {numbers others : List Int}
    (same : ", ".intercalate (numbers.map toString) = ", ".intercalate (others.map toString)) :
    numbers = others := by
  have ne_nil : ∀ (n : Int) (numbers : List Int),
      (", ".intercalate ((n :: numbers).map toString)).toList ≠ [] := by
    intro n numbers
    rw [toList_row]
    exact List.append_ne_nil_of_left_ne_nil (toList_toString_ne_nil n) _
  cases numbers with
  | nil =>
    cases others with
    | nil => rfl
    | cons m others => exact absurd (congrArg String.toList same.symm) (ne_nil m others)
  | cons n numbers =>
    cases others with
    | nil => exact absurd (congrArg String.toList same) (ne_nil n numbers)
    | cons m others =>
      rw [← String.toList_inj, toList_row, toList_row] at same
      rcases eq_of_toString_append (followers_stop numbers) (followers_stop others) same with
        ⟨rfl, rest⟩
      rw [followers_injective rest]

end Numeral

namespace Remark

variable {command : Command}

theorem value_eq_of_text_thrown {number value other : Int}
    (same : (thrown number value).text = (thrown number other).text) : value = other := by
  rw [text_thrown, text_thrown] at same
  exact Numeral.toString_injective ((String.append_right_inj _).mp same)

theorem dice_eq_of_text_kept {keep times : Int} {dice others : List Int}
    (same : (kept keep times dice).text = (kept keep times others).text) : dice = others := by
  rw [text_kept, text_kept] at same
  exact Numeral.row_injective ((String.append_right_inj _).mp same)

/-- As many throws that read alike are throws of the same dice. -/
theorem dice_eq_of_throws {dice others : List Int} (length : dice.length = others.length)
    (same : (throws dice).map text = (throws others).map text) : dice = others := by
  refine List.ext_getElem length fun place inside insideOther => ?_
  have line := congrArg (·[place]?) same
  simp only [throws, List.getElem?_map, List.getElem?_mapIdx, List.getElem?_eq_getElem inside,
    List.getElem?_eq_getElem insideOther, Option.map_some, Option.some.injEq] at line
  exact value_eq_of_text_thrown line

end Remark

/-- A draw has as many dice as the command throws, and all of them are kept if there is no
choice. -/
structure Draw.Sized (command : Command) (draw : Draw) : Prop where
  count : draw.dice.length = command.times.toNat
  keptAll : ¬ command.Chooses → draw.kept = draw.dice

namespace Command

variable {command : Command}

theorem DrawsAll.sized {σ : Type} {source : Source σ} {state after : σ} {draws : List Draw}
    (drawn : DrawsAll source command state draws after) :
    ∀ draw ∈ draws, draw.Sized command := by
  induction drawn with
  | nil => exact List.forall_mem_nil _
  | cons first rest hypothesis =>
    rcases first with ⟨count, rolls, keeping⟩
    exact List.forall_mem_cons.mpr ⟨⟨count, keeping.eq_of_keepAll⟩, hypothesis⟩

/-- Two rounds that read alike up to some point after their dice have the same dice. -/
theorem draw_eq_of_lines_eq {draw other : Draw} {rest others : List String}
    (sized : draw.Sized command) (otherSized : other.Sized command)
    (same : (Remark.diceSteps command draw).map Remark.text ++ rest =
      (Remark.diceSteps command other).map Remark.text ++ others) : draw = other := by
  rcases draw with ⟨dice, kept⟩
  rcases other with ⟨otherDice, otherKept⟩
  have length : dice.length = otherDice.length := sized.count.trans otherSized.count.symm
  rw [Remark.diceSteps, Remark.diceSteps] at same
  simp only [List.map_append, List.append_assoc] at same
  have throwsLength : ((Remark.throws dice).map Remark.text).length =
      ((Remark.throws otherDice).map Remark.text).length := by
    simp only [Remark.throws, List.length_map, List.length_mapIdx, length]
  rcases List.append_inj same throwsLength with ⟨throws, afterThrows⟩
  obtain rfl := Remark.dice_eq_of_throws length throws
  cases keeping : command.keeping with
  | none =>
    have keepAll := keeping_eq_none_iff.mp keeping
    have keptAll : kept = dice := sized.keptAll keepAll
    have otherKeptAll : otherKept = dice := otherSized.keptAll keepAll
    rw [keptAll, otherKeptAll]
  | some keep =>
    simp only [Remark.keepSteps, keeping, Option.map_some, Option.toList_some, List.map_cons,
      List.map_nil, List.cons_append, List.cons.injEq] at afterThrows
    rw [Remark.dice_eq_of_text_kept afterThrows.1]

/-- As many rounds that read alike have the same dice. -/
theorem draws_eq_of_linesOf_eq {draws others : List Draw} {number : Int}
    (sized : ∀ draw ∈ draws, draw.Sized command) (othersSized : ∀ draw ∈ others, draw.Sized command)
    (length : draws.length = others.length)
    (same : command.linesOf number draws = command.linesOf number others) : draws = others := by
  induction draws generalizing others number with
  | nil => exact (List.eq_nil_of_length_eq_zero length.symm).symm
  | cons draw draws hypothesis =>
    cases others with
    | nil => cases length
    | cons other others =>
      rw [List.forall_mem_cons] at sized othersSized
      rw [linesOf_cons, linesOf_cons] at same
      obtain rfl := draw_eq_of_lines_eq sized.1 othersSized.1 same
      have rest := (List.cons.inj (List.append_cancel_left (List.append_cancel_left same))).2
      rw [hypothesis sized.2 othersSized.2 (Nat.succ.inj length) rest]

/-- Two rolls of a command that tell the same lines have the same outcomes, whatever the sources
are that their dice come from. -/
theorem outcomes_eq_of_lines_eq {σ τ : Type} {source : Source σ} {other : Source τ} {state : σ}
    {otherState : τ} {text : Option String} {report again : Report}
    (answered : ((command.evaluate source text).run state).result = .ok report)
    (answeredAgain : ((command.evaluate other text).run otherState).result = .ok again)
    (same : report.lines = again.lines) : report.outcomes = again.outcomes := by
  rcases exists_unrolled answered with ⟨draws, unrolled⟩
  rcases exists_unrolled answeredAgain with ⟨drawsAgain, unrolledAgain⟩
  have length : draws.length = drawsAgain.length :=
    unrolled.length.trans unrolledAgain.length.symm
  rw [unrolled.lines_eq, unrolledAgain.lines_eq] at same
  have rounds : command.linesOf 1 draws = command.linesOf 1 drawsAgain :=
    (List.append_inj' same rfl).1
  have draws_eq : draws = drawsAgain :=
    draws_eq_of_linesOf_eq unrolled.drawn.sized unrolledAgain.drawn.sized length rounds
  rw [unrolled.outcomes_eq, unrolledAgain.outcomes_eq, draws_eq]

/-- A generator and a script that happen to roll and to keep the same dice. -/
theorem outcomes_eq_of_lines_eq_of_script :
    let command : Command := ⟨2, 6, some 1, false, true, 2, -1, 1⟩
    let ran := (command.evaluate .counting none).run 4
    let ranAgain := (command.evaluate .scripted none).run (.cycle #[5, 6] 0 false)
    ∃ report again, ran.result = .ok report ∧ ranAgain.result = .ok again ∧
      report.lines = again.lines ∧ report.outcomes = [⟨[5], 9, some [5, 6]⟩] ∧
      report.outcomes = again.outcomes := by
  intro command ran ranAgain
  have answers : ran.result.map (fun report => (report.lines, report.outcomes)) =
      .ok (["Roll #1: 5", "Roll #2: 6", "Keeping 1 of 2 rolls: 5", "Selecting the highest roll: 5",
        "Adding up all the rolls: 5 = 5", "Applying the multiplier: 5 x 2 = 10",
        "The total of outcome #1 is 9", "The result of 2d6(k1)-Hx2-1 is 9"],
        [⟨[5], 9, some [5, 6]⟩]) := by
    decide +kernel
  have answersAgain : ranAgain.result.map Report.lines = ran.result.map Report.lines := by
    decide +kernel
  rcases Pipeline.map_eq_ok_iff.mp answers with ⟨report, answered, told⟩
  rw [answered] at answersAgain
  rcases Pipeline.map_eq_ok_iff.mp answersAgain with ⟨again, answeredAgain, lines⟩
  exact ⟨report, again, answered, answeredAgain, lines.symm, congrArg Prod.snd told,
    outcomes_eq_of_lines_eq answered answeredAgain lines.symm⟩

end Command

end DiceTower
