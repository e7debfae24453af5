import DiceTower.Proofs.Pipeline
import DiceTower.Proofs.RoundTrip

/-!
# What can be read

Any text at all may be read, well written or not, and whatever command comes out is well formed
and can be written again: no token brings a number into the draft that is too long
(`Draft.add_fits`), so neither does a row of them (`Draft.gather_fits`), and what stays open takes
a small value (`Draft.command_fits`).
-/

namespace DiceTower

open DiceTower.Text

namespace Draft

/-- The numbers gathered so far are all short enough to be written. -/
structure Fits (draft : Draft) : Prop where
  times : draft.times < Numeral.bound
  faces : draft.faces < Numeral.bound
  keep : draft.keep < Numeral.bound
  multiplier : draft.multiplier < Numeral.bound
  modifier : draft.modifier.natAbs < Numeral.bound

theorem fits_empty : Fits {} := by
  have positive := Numeral.bound_pos
  exact ⟨positive, positive, positive, positive, positive⟩

theorem read_lt_bound {digits : List Char} {n : Nat} (reads : Numeral.read digits = .ok n) :
    n < Numeral.bound := by
  obtain ⟨short, rfl⟩ := Numeral.read_eq_ok_iff.mp reads
  exact Numeral.value_lt_bound short

theorem settle_lt_bound {held n : Nat} {digits : List Char} (small : held < Numeral.bound)
    (settled : settle held digits = .ok n) : n < Numeral.bound := by
  unfold settle at settled
  split at settled
  · exact read_lt_bound settled
  · cases settled
    exact small

/-- One more token keeps all numbers short enough. -/
theorem add_fits (draft : Draft) (token : Token) (draft' : Draft) (fits : draft.Fits)
    (added : draft.add token = .ok draft') : draft'.Fits := by
  cases token with
  | dice times faces =>
    obtain ⟨times', settledTimes, added⟩ := Pipeline.bind_eq_ok_iff.mp added
    obtain ⟨faces', settledFaces, added⟩ := Pipeline.bind_eq_ok_iff.mp added
    cases added
    exact { fits with
      times := settle_lt_bound fits.times settledTimes
      faces := settle_lt_bound fits.faces settledFaces }
  | keep kept =>
    obtain ⟨keep', settled, added⟩ := Pipeline.bind_eq_ok_iff.mp added
    cases added
    exact { fits with keep := settle_lt_bound fits.keep settled }
  | select flag =>
    simp only [add] at added
    split at added
    · cases added
      exact { fits with }
    · cases added
      exact { fits with }
  | multiplier factor =>
    obtain ⟨multiplier', settled, added⟩ := Pipeline.bind_eq_ok_iff.mp added
    cases added
    exact { fits with multiplier := settle_lt_bound fits.multiplier settled }
  | modifier sign gap amount =>
    simp only [add] at added
    split at added
    · obtain ⟨size, reads, added⟩ := Pipeline.bind_eq_ok_iff.mp added
      have small := read_lt_bound reads
      cases added
      refine { fits with modifier := ?_ }
      simp only
      split <;> omega
    · cases added
      exact fits

theorem gather_fits {tokens : List Token} {draft : Draft} (gathered : gather tokens = .ok draft) :
    draft.Fits :=
  Pipeline.foldlM_invariant Fits add_fits fits_empty gathered

theorem orUsual_fits {count usual : Nat} (small : count < Numeral.bound)
    (usualSmall : usual < Numeral.bound) : Numeral.Fits (orUsual count usual) := by
  unfold orUsual Numeral.Fits
  split
  · exact usualSmall
  · exact small

theorem command_fits {draft : Draft} {rounds : Nat} (fits : draft.Fits)
    (small : rounds < Numeral.bound) : (draft.command rounds).Fits := by
  have one : 1 < Numeral.bound := Numeral.fits_of_natAbs_lt (n := 1) (by decide)
  have twenty : 20 < Numeral.bound := Numeral.fits_of_natAbs_lt (n := 20) (by decide)
  refine ⟨orUsual_fits fits.times one, orUsual_fits fits.faces twenty, ?_,
    orUsual_fits fits.multiplier one, fits.modifier, orUsual_fits small one⟩
  intro kept held
  simp only [command] at held
  split at held
  · cases held
  · cases held
    exact fits.keep

end Draft

namespace Command

/-- Whatever is read, from any text, is well formed and can be written. -/
theorem wellformed_and_fits_of_readText {text : List Char} {command : Command}
    (reads : readText text = .ok command) : command.Wellformed ∧ command.Fits := by
  obtain ⟨rounds, readRounds, reads⟩ := Pipeline.bind_eq_ok_iff.mp reads
  obtain ⟨draft, gathered, reads⟩ := Pipeline.bind_eq_ok_iff.mp reads
  cases reads
  exact ⟨draft.command_wellformed rounds,
    Draft.command_fits (Draft.gather_fits gathered) (Draft.read_lt_bound readRounds)⟩

theorem readText_of_read {text : Option String} {fallback : String} {command : Command}
    (reads : read text fallback = .ok command) :
    readText (textOr text fallback).toList = .ok command := by
  unfold read at reads
  cases result : readText (textOr text fallback).toList with
  | error fault =>
    rw [result] at reads
    cases reads
  | ok other =>
    rw [result] at reads
    cases reads
    rfl

theorem wellformed_of_read {text : Option String} {fallback : String} {command : Command}
    (reads : read text fallback = .ok command) : command.Wellformed :=
  (wellformed_and_fits_of_readText (readText_of_read reads)).1

theorem fits_of_read {text : Option String} {fallback : String} {command : Command}
    (reads : read text fallback = .ok command) : command.Fits :=
  (wellformed_and_fits_of_readText (readText_of_read reads)).2

end Command

end DiceTower
