import DiceTower.Play

/-!
# Computations that run alike

Two computations on one source are alike if, from every state, they make the same calls, leave the
source in the same state, and end in the same failure or in related answers. The events they report
are left out of it. Being alike goes through a sequence of computations (`Play.Alike.bind`), so two
programs are compared step by step.
-/

namespace DiceTower

/-- Two results are alike if they are the same failure or related answers. -/
inductive ResultsAlike {α β : Type} (related : α → β → Prop) :
    Except Failure α → Except Failure β → Prop
  | failed (failure : Failure) : ResultsAlike related (.error failure) (.error failure)
  | answered {answer : α} {other : β} (same : related answer other) :
    ResultsAlike related (.ok answer) (.ok other)

/-- What two runs leave behind is alike if they differ in related answers and in events only. -/
structure RunsAlike {σ α β : Type} (related : α → β → Prop) (ran : Ran σ α) (other : Ran σ β) :
    Prop where
  result : ResultsAlike related ran.result other.result
  source : ran.source = other.source
  calls : ran.calls = other.calls

namespace Play

variable {σ α β γ δ : Type} {related : α → β → Prop} {relatedAfter : γ → δ → Prop}

/-- Two computations are alike if all their runs from one state are. -/
def Alike (related : α → β → Prop) (play : Play σ α) (other : Play σ β) : Prop :=
  ∀ state, RunsAlike related (play.run state) (other.run state)

theorem Alike.refl (play : Play σ α) : Alike (fun answer other => answer = other) play play := by
  intro state
  refine ⟨?_, rfl, rfl⟩
  cases (play.run state).result with
  | error failure => exact .failed failure
  | ok answer => exact .answered rfl

theorem Alike.pure {answer : α} {other : β} (same : related answer other) :
    Alike related (Pure.pure answer : Play σ α) (Pure.pure other : Play σ β) :=
  fun _ => ⟨.answered same, rfl, rfl⟩

theorem Alike.ofExcept {result : Except Failure α} {other : Except Failure β}
    (alike : ResultsAlike related result other) :
    Alike related (Play.ofExcept result : Play σ α) (Play.ofExcept other : Play σ β) :=
  fun _ => ⟨alike, rfl, rfl⟩

theorem Alike.fail (failure : Failure) :
    Alike related (Play.fail failure : Play σ α) (Play.fail failure : Play σ β) :=
  fun _ => ⟨.failed failure.worded, rfl, rfl⟩

/-- Events are not compared. -/
theorem Alike.report (event other : Event) :
    Alike (fun _ _ => True) (Play.report event : Play σ Unit) (Play.report other : Play σ Unit) :=
  fun _ => ⟨.answered trivial, rfl, rfl⟩

/-- Alike computations followed by computations that are alike for related answers are alike. -/
theorem Alike.bind {first : Play σ α} {otherFirst : Play σ β} {next : α → Play σ γ}
    {otherNext : β → Play σ δ} (firsts : Alike related first otherFirst)
    (nexts : ∀ answer other, related answer other →
      Alike relatedAfter (next answer) (otherNext other)) :
    Alike relatedAfter (first >>= next) (otherFirst >>= otherNext) := by
  intro state
  obtain ⟨result, source, calls⟩ := firsts state
  generalize left : (first.run state).result = leftResult at result
  generalize right : (otherFirst.run state).result = rightResult at result
  cases result with
  | failed failure =>
    rw [run_bind_of_error left, run_bind_of_error right]
    exact ⟨.failed failure, source, calls⟩
  | @answered answer other same =>
    rw [run_bind_of_ok left, run_bind_of_ok right]
    dsimp only
    rw [source, calls]
    obtain ⟨resultAfter, sourceAfter, callsAfter⟩ :=
      nexts answer other same (otherFirst.run state).source
    exact ⟨resultAfter, sourceAfter, congrArg _ callsAfter⟩

end Play

end DiceTower
