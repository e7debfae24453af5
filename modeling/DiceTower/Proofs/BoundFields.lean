import DiceTower.Execution

/-!
# What is bound while a request is carried out

A computation in a scene mirrors one on the bare source if its runs leave behind what the other's
do, with the same fields bound at the end and at each event as at the start (`Play.Mirrors`). A
sequence mirrors a sequence (`Play.Mirrors.bind`), and nothing in an execution looks at what is
bound, so the execution of a text mirrors itself (`Options.mirrors_rollReported`).

A computation for whose time fields are bound has them at each of its events, and ends with those
bound that were bound before, whether it answers or fails (`Play.Mirrors.run_binding`,
`Record.get?_released_putAll`). So it is with a request (`Options.run_rollText`).
-/

namespace DiceTower

open Play

/-- What a run on the bare source leaves behind, in a scene where some fields are bound. -/
def Ran.inScene {σ α : Type} (ran : Ran σ α) (bound : Record Value) : Ran (Scene σ) α :=
  ⟨ran.result, ⟨ran.source, bound⟩, ran.calls,
    ran.notes.map fun note => ⟨note.event, ⟨note.state, bound⟩⟩⟩

namespace Play

variable {σ α β : Type} {lifted : Play (Scene σ) α} {play : Play σ α}

/-- The computation in a scene leaves behind what the other one does, whatever is bound. -/
def Mirrors (lifted : Play (Scene σ) α) (play : Play σ α) : Prop :=
  ∀ state bound, lifted.run ⟨state, bound⟩ = (play.run state).inScene bound

theorem Mirrors.pure (answer : α) :
    Mirrors (Pure.pure answer : Play (Scene σ) α) (Pure.pure answer : Play σ α) :=
  fun _ _ => rfl

theorem Mirrors.ofExcept (result : Except Failure α) :
    Mirrors (Play.ofExcept result : Play (Scene σ) α) (Play.ofExcept result : Play σ α) :=
  fun _ _ => rfl

theorem Mirrors.report (event : Event) :
    Mirrors (Play.report event : Play (Scene σ) Unit) (Play.report event : Play σ Unit) :=
  fun _ _ => rfl

theorem Mirrors.die (source : Source σ) (low high : Int) :
    Mirrors (Play.die source.inScene low high) (Play.die source low high) :=
  fun _ _ => rfl

theorem Mirrors.sample (source : Source σ) (population : List Int) (size : Int) :
    Mirrors (Play.sample source.inScene population size) (Play.sample source population size) := by
  intro state bound
  rcases drawn : source.sample state population size with ⟨_ | dice, after⟩ <;>
    simp [Play.run, Play.sample, Source.inScene, Ran.inScene, drawn]

/-- What is bound reaches the next computation as it was. -/
theorem Mirrors.bind {liftedNext : α → Play (Scene σ) β} {next : α → Play σ β}
    (first : Mirrors lifted play) (after : ∀ answer, Mirrors (liftedNext answer) (next answer)) :
    Mirrors (lifted >>= liftedNext) (play >>= next) := by
  intro state bound
  have before := first state bound
  have result : (lifted.run ⟨state, bound⟩).result = (play.run state).result := by
    rw [before]
    rfl
  cases ran : (play.run state).result with
  | error failure =>
    rw [run_bind_of_error (result.trans ran), run_bind_of_error ran, before]
    rfl
  | ok answer =>
    have later := after answer (play.run state).source bound
    rw [run_bind_of_ok (result.trans ran), run_bind_of_ok ran, before]
    simp only [Ran.inScene] at later ⊢
    rw [later, List.map_append]

theorem Mirrors.map (f : α → β) (mirrors : Mirrors lifted play) :
    Mirrors (f <$> lifted) (f <$> play) := by
  rw [map_eq_pure_bind, map_eq_pure_bind]
  exact mirrors.bind fun answer => .pure (f answer)

theorem Mirrors.sayAll (remarks : List Remark) :
    Mirrors (Play.sayAll remarks : Play (Scene σ) Unit) (Play.sayAll remarks : Play σ Unit) := by
  rw [Play.sayAll, Play.sayAll]
  induction remarks with
  | nil => exact .pure ()
  | cons remark remarks hypothesis => exact Mirrors.bind (.ofExcept _) fun _ => hypothesis

/-- Fields that are bound for the time of a computation are bound at each of its events. They are
released when it is over, however it has ended. -/
theorem Mirrors.run_binding (mirrors : Mirrors lifted play) (fields : Record Value) (state : σ)
    (bound : Record Value) :
    (binding fields lifted).run ⟨state, bound⟩ =
      let ran := (play.run state).inScene (bound.putAll fields)
      { ran with
        source := ⟨ran.source.state, Record.released fields bound (bound.putAll fields)⟩ } := by
  have ran := mirrors state (bound.putAll fields)
  unfold Play.run at ran ⊢
  unfold binding
  dsimp only
  rw [ran]
  rfl

end Play

namespace Command

variable {σ : Type} (source : Source σ) (command : Command)

/-! ## Rounds -/

theorem mirrors_throwDice (faces : Int) (count : Nat) (number : Int) :
    Mirrors (throwDice source.inScene faces count number)
      (throwDice source faces count number) := by
  induction count generalizing number with
  | zero => exact .pure []
  | succ count hypothesis =>
    have thrown : Mirrors (throwDie source.inScene faces) (throwDie source faces) := by
      unfold throwDie
      split
      · exact .ofExcept _
      · exact .die source 1 faces
    refine Mirrors.bind thrown fun die => Mirrors.bind (.ofExcept _) fun _ => ?_
    exact (hypothesis (number + 1)).map _

theorem mirrors_keepDice (dice : List Int) :
    Mirrors (keepDice source.inScene command dice) (keepDice source command dice) := by
  unfold keepDice
  split
  · exact .pure dice
  · exact Mirrors.bind (.sample source dice _) fun kept =>
      Mirrors.bind (.ofExcept _) fun _ => .pure kept

theorem mirrors_playRound (number : Int) :
    Mirrors (playRound source.inScene command number) (playRound source command number) :=
  Mirrors.bind (mirrors_throwDice source _ _ _) fun dice =>
    Mirrors.bind (mirrors_keepDice source command dice) fun _ =>
      Mirrors.bind (.sayAll _) fun _ => .pure _

theorem mirrors_playRounds (count : Nat) (number : Int) :
    Mirrors (playRounds source.inScene command count number)
      (playRounds source command count number) := by
  induction count generalizing number with
  | zero => exact .pure []
  | succ count hypothesis =>
    exact Mirrors.bind (mirrors_playRound source command number) fun round =>
      (hypothesis (number + 1)).map _

/-! ## The whole roll -/

theorem mirrors_playAll (text : String) :
    Mirrors (playAll source.inScene command text) (playAll source command text) := by
  unfold playAll
  refine Mirrors.bind (.report _) fun _ => ?_
  refine Mirrors.bind (mirrors_playRounds source command _ _) fun rounds => ?_
  refine Mirrors.bind (.ofExcept _) fun _ => Mirrors.bind (.ofExcept _) fun _ => ?_
  exact Mirrors.bind (.report _) fun _ => .pure _

theorem mirrors_evaluate (text : Option String) :
    Mirrors (command.evaluate source.inScene text) (command.evaluate source text) := by
  unfold evaluate
  split
  · exact .ofExcept _
  · exact Mirrors.bind (.ofExcept _) fun name => mirrors_playAll source command name

end Command

theorem Limits.mirrors_check {σ : Type} (limits : Limits) (command : Command) :
    Mirrors (limits.check command : Play (Scene σ) Unit) (limits.check command : Play σ Unit) := by
  unfold check
  split
  · exact .pure ()
  · exact Mirrors.bind (.report _) fun _ => .ofExcept _

namespace Options

variable {σ : Type} (options : Options) (source : Source σ) (given : Option String)

theorem mirrors_execute :
    Mirrors (options.execute source.inScene given) (options.execute source given) := by
  unfold execute
  refine Mirrors.bind (.ofExcept _) fun command => ?_
  refine Mirrors.bind (options.limits.mirrors_check command) fun _ => ?_
  exact Command.mirrors_evaluate source command _

theorem mirrors_rollReported :
    Mirrors (options.rollReported source.inScene given) (options.rollReported source given) := by
  unfold rollReported
  refine Mirrors.bind (.report _) fun _ => ?_
  refine Mirrors.bind (options.mirrors_execute source given) fun report => ?_
  exact Mirrors.bind (.report _) fun _ => .pure report

/-- All that is reported in a request is marked by its identity, and after it what was bound before
is bound, whether the request was answered or has failed. -/
theorem run_rollText (stamp : Stamp) (state : σ) (bound : Record Value) :
    (options.rollText source stamp given).run ⟨state, bound⟩ =
      let ran := (options.rollReported source given).run state
      let marked := bound.putAll stamp.mark
      ⟨ran.result.map (⟨·, stamp, source.name⟩),
        ⟨ran.source, Record.released stamp.mark bound marked⟩, ran.calls,
        ran.notes.map fun note => ⟨note.event, ⟨note.state, marked⟩⟩⟩ := by
  unfold rollText
  rw [bind_pure_comp, run_map,
    (options.mirrors_rollReported source given).run_binding stamp.mark state bound]
  dsimp only
  -- What the run comes to plays no part, and must not be computed.
  generalize (options.rollReported source given).run state = ran
  rfl

end Options

end DiceTower
