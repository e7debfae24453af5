import DiceTower.Outcome
import Mathlib.Algebra.Order.BigOperators.Group.List
import Mathlib.Algebra.Ring.Int.Defs

/-!
# The dice that count

The dice that count are some of those kept: one of them if there is a selection, else all. So
bounds on the dice go over to their sum, to the product and to the total of a round
(`Command.sum_between`, `Command.product_between`).
-/

namespace DiceTower

theorem sumOf_eq_sum (numbers : List Int) : sumOf numbers = numbers.sum :=
  rfl

/-- The sum of numbers between two bounds. -/
theorem sumOf_between (numbers : List Int) {low high : Int}
    (between : ∀ n ∈ numbers, low ≤ n ∧ n ≤ high) :
    numbers.length * low ≤ sumOf numbers ∧ sumOf numbers ≤ numbers.length * high := by
  have least := List.card_nsmul_le_sum numbers low fun n member => (between n member).1
  have most := List.sum_le_card_nsmul numbers high fun n member => (between n member).2
  rw [nsmul_eq_mul, ← sumOf_eq_sum] at least most
  exact ⟨least, most⟩

namespace Command

variable {command : Command} {kept : List Int}

theorem keeping_eq_some_iff {keep : Int} :
    command.keeping = some keep ↔ command.keep = some keep ∧ keep ≠ 0 := by
  rw [keeping, Option.filter_eq_some_iff, decide_eq_true_eq]

/-- The selected die is kept, and no other kept one goes beyond it. -/
theorem extremal_of_selected {extreme : Extreme} {die : Int}
    (selected : command.selected kept = some (extreme, die)) :
    die ∈ kept ∧ match extreme with
      | .highest => ∀ other ∈ kept, other ≤ die
      | .lowest => ∀ other ∈ kept, die ≤ other := by
  unfold Command.selected at selected
  obtain ⟨asked, -, chosen⟩ := Option.bind_eq_some_iff.mp selected
  obtain ⟨value, extremal, same⟩ := Option.map_eq_some_iff.mp chosen
  cases same
  cases extreme with
  | highest => exact List.max?_eq_some_iff.mp extremal
  | lowest => exact List.min?_eq_some_iff.mp extremal

theorem mem_of_selected {extreme : Extreme} {die : Int}
    (selected : command.selected kept = some (extreme, die)) : die ∈ kept :=
  (extremal_of_selected selected).1

theorem mem_of_mem_counted {die : Int} (counts : die ∈ command.counted kept) : die ∈ kept := by
  unfold counted at counts
  split at counts
  · rename_i extreme value selected
    rw [List.mem_singleton.mp counts]
    exact mem_of_selected selected
  · exact counts

theorem length_counted_le (command : Command) (kept : List Int) :
    (command.counted kept).length ≤ kept.length := by
  unfold counted
  split
  · rename_i extreme value selected
    exact List.length_pos_of_mem (mem_of_selected selected)
  · exact Nat.le_refl _

theorem length_counted_pos (command : Command) (some : kept ≠ []) :
    0 < (command.counted kept).length := by
  unfold counted
  split
  · exact Nat.zero_lt_one
  · exact List.length_pos_iff.mpr some

/-- Dice that are not too many add up to no more than so many dice can show. -/
theorem sum_between {faces times : Int} (some : kept ≠ []) (count : (kept.length : Int) ≤ times)
    (dice : ∀ die ∈ kept, 1 ≤ die ∧ die ≤ faces) :
    1 ≤ sumOf (command.counted kept) ∧ sumOf (command.counted kept) ≤ times * faces := by
  obtain ⟨least, most⟩ := sumOf_between (command.counted kept)
    fun die counts => dice die (mem_of_mem_counted counts)
  have atLeast := command.length_counted_pos some
  have atMost := command.length_counted_le kept
  obtain ⟨die, held⟩ := List.exists_mem_of_ne_nil kept some
  have faces_pos : 0 ≤ faces := by
    have := dice die held
    omega
  refine ⟨by omega, ?_⟩
  calc sumOf (command.counted kept)
      ≤ (command.counted kept).length * faces := most
    _ ≤ times * faces := Int.mul_le_mul_of_nonneg_right (by omega) faces_pos

/-- A factor below one has the effect of one. -/
theorem multiplied_eq_mul_max (command : Command) (sum : Int) :
    command.multiplied sum = sum * max command.multiplier 1 := by
  unfold multiplied
  split
  · rw [max_eq_left (by omega)]
  · rw [max_eq_right (by omega), Int.mul_one]

theorem multiplied_eq (positive : 1 ≤ command.multiplier) (sum : Int) :
    command.multiplied sum = sum * command.multiplier := by
  rw [multiplied_eq_mul_max, max_eq_left positive]

theorem product_between {sum most : Int} (positive : 1 ≤ command.multiplier)
    (between : 1 ≤ sum ∧ sum ≤ most) :
    command.multiplier ≤ command.multiplied sum ∧
      command.multiplied sum ≤ most * command.multiplier := by
  rw [multiplied_eq positive]
  constructor
  · calc command.multiplier
        = 1 * command.multiplier := (Int.one_mul _).symm
      _ ≤ sum * command.multiplier := Int.mul_le_mul_of_nonneg_right between.1 (by omega)
  · exact Int.mul_le_mul_of_nonneg_right between.2 (by omega)

end Command

end DiceTower
