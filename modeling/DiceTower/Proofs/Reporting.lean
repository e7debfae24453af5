import DiceTower.Evaluation

/-!
# What computations report

`Play.Reports play told` says of all runs of a computation that one that answers has reported the
events `told` of its answer, and one that fails has reported nothing. A computation that reports
nothing at all may stand in front of any other (`Play.Reports.bind`).

Rounds report nothing, so a roll reports that it starts, and what it comes to if it comes to an end
(`Command.events_playAll`).
-/

namespace DiceTower

namespace Play

variable {σ α β : Type} {play : Play σ α} {told : α → List Event}

/-- A run that answers reports the events of its answer, and one that fails reports none. -/
def Reports (play : Play σ α) (told : α → List Event) : Prop :=
  ∀ state, (play.run state).events = (play.run state).result.toOption.elim [] told

/-- No run reports anything. -/
abbrev Silent (play : Play σ α) : Prop :=
  play.Reports fun _ => []

theorem Reports.of_pure {answer : α} (nothing : told answer = []) :
    Reports (pure answer : Play σ α) told :=
  fun _ => nothing.symm

theorem Silent.ofExcept (result : Except Failure α) : Silent (ofExcept result : Play σ α) := by
  intro state
  cases result <;> rfl

theorem Silent.sample (source : Source σ) (population : List Int) (size : Int) :
    Silent (sample source population size) := by
  intro state
  unfold Play.run Play.sample
  split <;> rfl

/-- After a computation that reports nothing, only the next one has something to tell. -/
theorem Reports.bind {next : α → Play σ β} {toldAfter : β → List Event} (first : Silent play)
    (after : ∀ answer, Reports (next answer) toldAfter) : Reports (play >>= next) toldAfter := by
  intro state
  have nothing := first state
  cases before : (play.run state).result with
  | error failure =>
    rw [events_bind_of_error before, run_bind_of_error before, nothing, before]
    rfl
  | ok answer =>
    rw [events_bind_of_ok before, run_bind_of_ok before, nothing, before]
    exact after answer _

/-- An event is told before all that comes after it. -/
theorem events_report_bind (event : Event) {next : Unit → Play σ α} (after : Reports (next ()) told)
    (state : σ) :
    ((report event >>= next).run state).events =
      event :: ((report event >>= next).run state).result.toOption.elim [] told := by
  have reported : ((report event : Play σ Unit).run state).result = .ok () := rfl
  rw [events_bind_of_ok reported, run_bind_of_ok reported]
  exact congrArg (List.cons event) (after state)

theorem Silent.map (f : α → β) (silent : Silent play) : Silent (f <$> play) := by
  rw [map_eq_pure_bind]
  exact Reports.bind silent fun _ => .of_pure rfl

theorem Silent.sayAll (remarks : List Remark) : Silent (sayAll remarks : Play σ Unit) := by
  rw [Play.sayAll]
  induction remarks with
  | nil => exact .of_pure rfl
  | cons remark remarks hypothesis => exact Reports.bind (.ofExcept _) fun _ => hypothesis

end Play

namespace Command

open Play

variable {σ : Type} (source : Source σ) (command : Command)

/-! ## Rounds -/

theorem silent_throwDice (faces : Int) (count : Nat) (number : Int) :
    Silent (throwDice source faces count number) := by
  induction count generalizing number with
  | zero => exact .of_pure rfl
  | succ count hypothesis =>
    have thrown : Silent (throwDie source faces) := by
      unfold throwDie
      split
      · exact .ofExcept _
      · exact fun _ => rfl
    refine Reports.bind thrown fun die => Reports.bind (.ofExcept _) fun _ => ?_
    exact (hypothesis (number + 1)).map _

theorem silent_keepDice (dice : List Int) : Silent (keepDice source command dice) := by
  unfold keepDice
  split
  · exact .of_pure rfl
  · exact Reports.bind (.sample source dice _) fun kept =>
      Reports.bind (.ofExcept _) fun _ => .of_pure rfl

theorem silent_playRound (number : Int) : Silent (playRound source command number) :=
  Reports.bind (silent_throwDice source _ _ _) fun dice =>
    Reports.bind (silent_keepDice source command dice) fun _ =>
      Reports.bind (.sayAll _) fun _ => .of_pure rfl

theorem silent_playRounds (count : Nat) (number : Int) :
    Silent (playRounds source command count number) := by
  induction count generalizing number with
  | zero => exact .of_pure rfl
  | succ count hypothesis =>
    exact Reports.bind (silent_playRound source command number) fun round =>
      (hypothesis (number + 1)).map _

/-! ## The whole roll -/

/-- A roll reports that it starts and, if all its lines can be written, what it comes to. -/
theorem events_playAll (text : String) (state : σ) :
    ((playAll source command text).run state).events =
      .evaluationStarted text command ::
        ((playAll source command text).run state).result.toOption.elim [] fun report =>
          [.evaluated text report.total report.outcomes.length] := by
  unfold playAll
  refine events_report_bind _ ?_ state
  refine Reports.bind (silent_playRounds source command _ _) fun rounds => ?_
  refine Reports.bind (.ofExcept _) fun _ => Reports.bind (.ofExcept _) fun _ => ?_
  exact fun _ => rfl

end Command

end DiceTower
