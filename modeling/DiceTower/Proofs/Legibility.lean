import DiceTower.Proofs.CountedDice
import DiceTower.Report

/-!
# Which lines can be written

A line can be written if every integer in it is short enough. For the lines of a round this comes
down to a handful of numbers: the dice that count, their sum, the product and the total
(`Remark.legible_of_mem_reckoning`), and for the equation of a report to the dice, the modifier and
the grand total (`Report.legible_resultPhrase_of_fits`).
-/

namespace DiceTower

theorem Piece.legible_number {n : Int} (fits : Numeral.Fits n) :
    (Piece.number n).legible = true := by
  rw [Piece.legible]
  exact decide_eq_true fits

namespace Phrase

theorem legible_iff {phrase : Phrase} :
    phrase.legible = true ↔ ∀ piece ∈ phrase, piece.legible = true := by
  rw [legible, List.all_eq_true]

theorem mem_intersperse {α : Type} {separator element : α} {list : List α}
    (member : element ∈ list.intersperse separator) : element = separator ∨ element ∈ list := by
  induction list with
  | nil => cases member
  | cons head tail hypothesis =>
    cases tail with
    | nil => exact .inr member
    | cons next rest =>
      rw [List.intersperse_cons_cons, List.mem_cons, List.mem_cons] at member
      rcases member with rfl | rfl | member
      · exact .inr List.mem_cons_self
      · exact .inl rfl
      · rcases hypothesis member with same | member
        · exact .inl same
        · exact .inr (List.mem_cons_of_mem _ member)

theorem legible_separated {separator : String} {numbers : List Int}
    (fit : ∀ n ∈ numbers, Numeral.Fits n) : (separated separator numbers).legible = true := by
  rw [legible_iff]
  intro piece member
  rcases mem_intersperse member with rfl | member
  · rfl
  · obtain ⟨n, held, rfl⟩ := List.mem_map.mp member
    exact Piece.legible_number (fit n held)

theorem legible_joined {separator : String} {phrases : List Phrase}
    (each : ∀ phrase ∈ phrases, phrase.legible = true) :
    (Report.joined separator phrases).legible = true := by
  rw [legible_iff]
  intro piece member
  obtain ⟨phrase, held, member⟩ := List.mem_flatten.mp member
  rcases mem_intersperse held with rfl | held
  · rw [List.mem_singleton.mp member]
    rfl
  · exact legible_iff.mp (each phrase held) piece member

end Phrase

/-! ## The lines of a round -/

namespace Remark

variable {command : Command} {number : Int} {kept : List Int}

theorem legible_of_mem_keepSteps
    (fits : ∀ keep, command.keep = some keep → Numeral.Fits keep)
    (times : Numeral.Fits command.times) (dice : ∀ die ∈ kept, Numeral.Fits die) :
    ∀ remark ∈ keepSteps command kept, remark.phrase.legible = true := by
  intro remark member
  rw [keepSteps] at member
  rw [Option.mem_toList, Option.map_eq_some_iff] at member
  obtain ⟨keep, keeping, rfl⟩ := member
  have held : command.keep = some keep := (Command.keeping_eq_some_iff.mp keeping).1
  rw [phrase, Phrase.legible_append, Phrase.legible_separated dice]
  simp [Phrase.legible, Piece.legible, fits keep held, times]

/-- The numbers that a round tells after its throws and its keeping are short enough. -/
structure NumbersFit (command : Command) (number : Int) (keptDice : List Int) : Prop where
  number : Numeral.Fits number
  dice : ∀ die ∈ keptDice, Numeral.Fits die
  sum : Numeral.Fits (sumOf (command.counted keptDice))
  product : Numeral.Fits (command.multiplied (sumOf (command.counted keptDice)))
  total : Numeral.Fits (command.multiplied (sumOf (command.counted keptDice)) + command.modifier)
  multiplier : Numeral.Fits command.multiplier
  modifier : Numeral.Fits command.modifier

theorem legible_of_mem_reckoning (fit : NumbersFit command number kept) :
    ∀ remark ∈ reckoning command number kept, remark.phrase.legible = true := by
  intro remark member
  simp only [reckoning, List.mem_append] at member
  rcases member with (((member | member) | member) | member) | member
  · unfold selectSteps at member
    rw [Option.mem_toList, Option.map_eq_some_iff] at member
    obtain ⟨⟨extreme, die⟩, selected, rfl⟩ := member
    have held := Command.mem_of_selected selected
    simp [phrase, Phrase.legible, Piece.legible, fit.dice die held]
  · unfold sumSteps at member
    split at member
    · rw [List.mem_singleton.mp member, phrase, Phrase.legible_append, Phrase.legible_append,
        Phrase.legible_separated fun die held => fit.dice die (Command.mem_of_mem_counted held)]
      simp [Phrase.legible, Piece.legible, fit.sum]
    · cases member
  · unfold multiplySteps at member
    split at member
    · rename_i several
      have product := fit.product
      rw [Command.multiplied, if_pos several] at product
      rw [List.mem_singleton.mp member]
      simp [phrase, Phrase.legible, Piece.legible, fit.sum, fit.multiplier, product]
    · cases member
  · unfold modifySteps at member
    split at member
    · rw [List.mem_singleton.mp member]
      simp [phrase, Phrase.legible, Piece.legible, fit.product, fit.modifier, fit.total]
    · cases member
  · rw [List.mem_singleton.mp member]
    simp [phrase, Phrase.legible, Piece.legible, fit.number, fit.total]

theorem legible_grandTotal (text : String) (total : Int) :
    (grandTotal text total).phrase.legible = decide (Numeral.Fits total) := by
  simp [phrase, Phrase.legible, Piece.legible]

end Remark

/-! ## The equation -/

namespace Report

theorem legible_of_mem_parts {command : Command} {rolls : List Int}
    (dice : ∀ die ∈ rolls, Numeral.Fits die) (multiplier : Numeral.Fits command.multiplier)
    (modifier : Numeral.Fits command.modifier) :
    ∀ part ∈ parts command rolls, part.legible = true := by
  intro part member
  simp only [parts, List.mem_append] at member
  rcases member with (member | member) | member
  · rw [List.mem_singleton.mp member, dicePart, Phrase.legible_append, Phrase.legible_append,
      Phrase.legible_separated dice]
    rfl
  · unfold multiplierPart at member
    split at member
    · rw [List.mem_singleton.mp member]
      simp [Phrase.legible, Piece.legible, multiplier]
    · cases member
  · have opposite : Numeral.Fits (-command.modifier) := by
      rw [Numeral.Fits, Int.natAbs_neg]
      exact modifier
    unfold modifierPart at member
    split at member
    · rw [List.mem_singleton.mp member]
      simp [Phrase.legible, Piece.legible, modifier]
    · split at member
      · rw [List.mem_singleton.mp member]
        simp [Phrase.legible, Piece.legible, opposite]
      · cases member

theorem legible_equation {rounds : List (List Phrase)} {total : Int}
    (each : ∀ round ∈ rounds, ∀ part ∈ round, part.legible = true)
    (fits : Numeral.Fits total) : (equation rounds total).legible = true := by
  have sum : Phrase.legible ([" = ", total] : Phrase) = true := by
    simp [Phrase.legible, Piece.legible, fits]
  unfold equation
  split
  · simp [Phrase.legible, Piece.legible, fits]
  · rename_i round
    rw [Phrase.legible_append, Phrase.legible_joined (each round List.mem_cons_self), sum]
    rfl
  · have sides : (joined " + " (rounds.map enclosed)).legible = true := by
      refine Phrase.legible_joined fun side member => ?_
      obtain ⟨round, held, rfl⟩ := List.mem_map.mp member
      rw [enclosed, Phrase.legible_append, Phrase.legible_append,
        Phrase.legible_joined (each round held)]
      rfl
    rw [Phrase.legible_append, sides, sum]
    rfl

/-- The result can be written if its dice, the multiplier, the modifier and the total can be. -/
theorem legible_resultPhrase_of_fits {text : String} {command : Command}
    {outcomes : List Outcome}
    (dice : ∀ outcome ∈ outcomes, ∀ die ∈ outcome.rolls, Numeral.Fits die)
    (multiplier : Numeral.Fits command.multiplier) (modifier : Numeral.Fits command.modifier)
    (total : Numeral.Fits (Outcome.grandTotal outcomes)) :
    (resultPhrase text command outcomes).legible = true := by
  rw [resultPhrase, Phrase.legible_append, legible_equation ?_ total]
  · rfl
  · intro round member
    obtain ⟨outcome, held, rfl⟩ := List.mem_map.mp member
    exact legible_of_mem_parts (dice outcome held) multiplier modifier

end Report

end DiceTower
