import DiceTower.Source
import Mathlib.Data.List.Perm.Subperm

/-!
# Lawful sources

A source that takes its numbers from a generator is lawful as soon as the generator keeps below
its bounds (`Source.lawful_ofGenerator`): drawing an element and putting the first of the list in
its place only rearranges the population.
-/

namespace DiceTower.Source

theorem DrawnFrom.subperm {drawn population : List Int} (drew : DrawnFrom drawn population) :
    drawn.Subperm population := by
  obtain ⟨rest, permuted⟩ := drew
  exact (List.sublist_append_left drawn rest).subperm.trans permuted.subperm

variable {σ : Type} (below : σ → Nat → Nat × σ)

/-- One draw takes one element off the population. -/
theorem pick_succ (count : Nat) (head : Int) (rest : List Int) (state : σ) :
    ∃ drawn left after, (drawn :: left).Perm (head :: rest) ∧
      (pick below (count + 1) (head :: rest) state).1 = drawn :: (pick below count left after).1 := by
  rw [pick]
  cases place : (below state (rest.length + 1)).1 with
  | zero =>
    refine ⟨head, rest, (below state (rest.length + 1)).2, List.Perm.refl _, ?_⟩
    simp only [place]
  | succ next =>
    refine ⟨rest.getD next head, rest.set next head, (below state (rest.length + 1)).2, ?_, ?_⟩
    · rw [List.getD_eq_getElem?_getD]
      exact List.getD_set_perm_cons rest next head
    · simp only [place]

theorem pick_drawn (count : Nat) (population : List Int) (enough : count ≤ population.length)
    (state : σ) :
    (pick below count population state).1.length = count ∧
      DrawnFrom (pick below count population state).1 population := by
  induction count generalizing population state with
  | zero =>
    refine ⟨by rw [pick]; rfl, population, ?_⟩
    rw [pick]
    exact List.Perm.refl _
  | succ count hypothesis =>
    cases population with
    | nil => cases enough
    | cons head rest =>
      obtain ⟨drawn, left, after, permuted, picked⟩ := pick_succ below count head rest state
      have size := permuted.length_eq
      simp only [List.length_cons] at size enough
      obtain ⟨length, others, permutedOthers⟩ := hypothesis left (by omega) after
      rw [picked]
      refine ⟨by rw [List.length_cons, length], others, ?_⟩
      exact (permutedOthers.cons drawn).trans permuted

/-- A generator that keeps below its bounds makes a lawful source. -/
theorem lawful_ofGenerator (name : String)
    (bounded : ∀ state count, 0 < count → (below state count).1 < count) :
    (ofGenerator name below).Lawful := by
  refine ⟨?_, ?_, ?_⟩
  · intro state low high some
    have offset := bounded state (high - low + 1).toNat (by omega)
    simp only [ofGenerator]
    omega
  · intro state population size
    simp only [ofGenerator, sampled]
    split
    · rename_i unfit
      exact ⟨fun _ => unfit, fun _ => rfl⟩
    · rename_i fit
      constructor
      · intro none
        cases none
      · intro unfit
        exact absurd unfit fit
  · intro state population size drawn answer
    simp only [ofGenerator, sampled] at answer
    split at answer
    · cases answer
    · rename_i fit
      cases answer
      obtain ⟨length, drew⟩ := pick_drawn below size.toNat population (by omega) state
      exact ⟨by omega, drew⟩

/-- The source that rolls the least number it may. -/
def least : Source Unit :=
  ofGenerator "least" fun state _ => (0, state)

theorem lawful_least : least.Lawful :=
  lawful_ofGenerator _ "least" fun _ _ positive => positive

/-- The source that counts up, its numbers reduced below their bounds. -/
def counting : Source Nat :=
  ofGenerator "counting" fun state count => (state % count, state + 1)

theorem lawful_counting : counting.Lawful :=
  lawful_ofGenerator _ "counting" fun state _ positive => Nat.mod_lt state positive

end DiceTower.Source
