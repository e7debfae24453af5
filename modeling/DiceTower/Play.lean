import DiceTower.Event
import DiceTower.Failure
import DiceTower.Source

/-!
# Runs on a random source

`Play σ α` is a computation on a random source with states `σ`. A run of it gives an answer or a
failure and, in either case, the state the source is left in, the calls that were made on it and
the events that were reported, both in order. So a failure undoes nothing: what was drawn before
stays drawn. Each event is noted with the state in which it was reported, for a state may hold more
than what the source needs.

Computations are combined in sequence, which joins their calls and notes end to end
(`run_bind_of_ok`), and a failure ends the sequence (`run_bind_of_error`).
-/

namespace DiceTower

/-- An event with the state in which it was reported. -/
structure Noted (σ : Type) where
  event : Event
  state : σ

/-- What a run leaves behind. -/
structure Ran (σ α : Type) where
  /-- The answer, or why there is none. -/
  result : Except Failure α
  /-- The state the source is left in. -/
  source : σ
  /-- The calls made on the source, in order. -/
  calls : List Call
  /-- The events reported, in order, each with the state in which it was reported. -/
  notes : List (Noted σ)

/-- The events reported, in order. -/
def Ran.events {σ α : Type} (ran : Ran σ α) : List Event :=
  ran.notes.map Noted.event

/-- A computation on a random source. -/
def Play (σ α : Type) : Type :=
  σ → Ran σ α

namespace Play

/-- Runs a computation from a state of the source. -/
def run {σ α : Type} (play : Play σ α) (state : σ) : Ran σ α :=
  play state

instance {σ : Type} : Monad (Play σ) where
  map f play := fun state =>
    let ran := play state
    ⟨ran.result.map f, ran.source, ran.calls, ran.notes⟩
  pure answer := fun state => ⟨.ok answer, state, [], []⟩
  bind first next := fun state =>
    let before := first state
    match before.result with
    | .error failure => ⟨.error failure, before.source, before.calls, before.notes⟩
    | .ok answer =>
      let after := next answer before.source
      ⟨after.result, after.source, before.calls ++ after.calls, before.notes ++ after.notes⟩

instance {σ : Type} : LawfulMonad (Play σ) := LawfulMonad.mk' (Play σ)
  (by
    intro α play
    funext state
    simp only [Functor.map]
    rcases play state with ⟨result, source, calls, notes⟩
    cases result <;> rfl)
  (by
    intro α β answer next
    rfl)
  (by
    intro α β γ first second third
    funext state
    simp only [bind]
    rcases first state with ⟨result, source, calls, notes⟩
    cases result with
    | error failure => rfl
    | ok answer =>
      simp only
      rcases second answer source with ⟨result', source', calls', notes'⟩
      cases result' <;> simp)
  (by
    intro α β answer play
    rfl)
  (by
    intro α β first second
    rfl)
  (by
    intro α β first second
    rfl)
  (by
    intro α β f play
    funext state
    simp only [bind, Functor.map]
    rcases play state with ⟨result, source, calls, notes⟩
    cases result with
    | error failure => rfl
    | ok answer => simp [pure, Except.map])

/-- The answer of a computation that involves no source. -/
def ofExcept {σ α : Type} (answer : Except Failure α) : Play σ α :=
  fun state => ⟨answer, state, [], []⟩

/-- Fails, with the failure that can be worded. -/
def fail {σ α : Type} (failure : Failure) : Play σ α :=
  ofExcept (.error failure.worded)

/-- Reports an event. -/
def report {σ : Type} (event : Event) : Play σ Unit :=
  fun state => ⟨.ok (), state, [], [⟨event, state⟩]⟩

/-- Asks the source for a roll between two bounds. -/
def die {σ : Type} (source : Source σ) (low high : Int) : Play σ Int :=
  fun state =>
    let (rolled, state) := source.die state low high
    ⟨.ok rolled, state, [.die low high], []⟩

/-- Asks the source for a sample. -/
def sample {σ : Type} (source : Source σ) (population : List Int) (size : Int) :
    Play σ (List Int) :=
  fun state =>
    match source.sample state population size with
    | (some drawn, state) => ⟨.ok drawn, state, [.sample population size], []⟩
    | (none, state) => ⟨.error .unfitSample, state, [.sample population size], []⟩

/-! ## What a run leaves behind -/

section Runs

variable {σ α β : Type} {state : σ}

@[simp]
theorem run_pure (answer : α) :
    (pure answer : Play σ α).run state = ⟨.ok answer, state, [], []⟩ :=
  rfl

@[simp]
theorem run_map (f : α → β) (play : Play σ α) :
    (f <$> play).run state =
      let ran := play.run state
      ⟨ran.result.map f, ran.source, ran.calls, ran.notes⟩ :=
  rfl

@[simp]
theorem run_ofExcept (answer : Except Failure α) :
    (ofExcept answer : Play σ α).run state = ⟨answer, state, [], []⟩ :=
  rfl

@[simp]
theorem run_fail (failure : Failure) :
    (fail failure : Play σ α).run state = ⟨.error failure.worded, state, [], []⟩ :=
  rfl

@[simp]
theorem run_report (event : Event) :
    (report event).run state = ⟨.ok (), state, [], [⟨event, state⟩]⟩ :=
  rfl

@[simp]
theorem run_die (source : Source σ) (low high : Int) :
    (die source low high).run state =
      ⟨.ok (source.die state low high).1, (source.die state low high).2, [.die low high], []⟩ :=
  rfl

/-- After an answer the next computation runs from the state that was left. -/
theorem run_bind_of_ok {first : Play σ α} {next : α → Play σ β} {answer : α}
    (answered : (first.run state).result = .ok answer) :
    (first >>= next).run state =
      let before := first.run state
      let after := (next answer).run before.source
      ⟨after.result, after.source, before.calls ++ after.calls, before.notes ++ after.notes⟩ := by
  simp only [run, bind] at answered ⊢
  rw [answered]

/-- After a failure nothing more is done. -/
theorem run_bind_of_error {first : Play σ α} {next : α → Play σ β} {failure : Failure}
    (failed : (first.run state).result = .error failure) :
    (first >>= next).run state =
      let before := first.run state
      ⟨.error failure, before.source, before.calls, before.notes⟩ := by
  simp only [run, bind] at failed ⊢
  rw [failed]

theorem events_bind_of_ok {first : Play σ α} {next : α → Play σ β} {answer : α}
    (answered : (first.run state).result = .ok answer) :
    ((first >>= next).run state).events =
      (first.run state).events ++ ((next answer).run (first.run state).source).events := by
  rw [run_bind_of_ok answered]
  exact List.map_append

theorem events_bind_of_error {first : Play σ α} {next : α → Play σ β} {failure : Failure}
    (failed : (first.run state).result = .error failure) :
    ((first >>= next).run state).events = (first.run state).events := by
  rw [run_bind_of_error failed]
  rfl

end Runs

end Play

end DiceTower
