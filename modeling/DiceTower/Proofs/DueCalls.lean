import DiceTower.Proofs.CountedDice
import DiceTower.Proofs.Ending

/-!
# The calls that are due

What a roll asks of its source is settled by the dice it is about: in each round so many throws and
then, if dice are to be kept, one sample of what the throws have rolled. `Source.callsDue` lists
these calls from a state of the source on. It is told the faces, the number and the keeping of the
dice and the number of rounds, and nothing else of a command.

A run may end early, at a line that cannot be worded or at a sample that the source refuses.
`Play.Follows` therefore says two things of a run: it makes all the calls that are due if it
answers, and the first ones of them if it fails. There is one rule for each way a computation is
put together.

The main statement is `Command.evaluate_makes_calls_due`.
-/

namespace DiceTower

namespace Source

variable {σ : Type} (source : Source σ)

/-- What some throws roll one after the other, and the state they leave. -/
def throws (faces : Int) : (count : Nat) → σ → List Int × σ
  | 0, state => ([], state)
  | count + 1, state =>
    let first := source.die state 1 faces
    let others := throws faces count first.2
    (first.1 :: others.1, others.2)

/-- The sample that is due among some dice, if any are to be kept, and the state it leaves. Zero
asks for none. -/
def sampleDue (keep : Option Int) (dice : List Int) (state : σ) : List Call × σ :=
  match keep with
  | none => ([], state)
  | some size =>
    if size = 0 then ([], state)
    else
      ([.sample dice (min size dice.length)],
        (source.sample state dice (min size dice.length)).2)

/-- The calls that are due in a round, and the state they leave. -/
def roundDue (faces : Int) (times : Nat) (keep : Option Int) (state : σ) : List Call × σ :=
  let thrown := source.throws faces times state
  let sampled := source.sampleDue keep thrown.1 thrown.2
  (List.replicate times (.die 1 faces) ++ sampled.1, sampled.2)

/-- The calls that are due in some rounds, and the state they leave. -/
def callsDue (faces : Int) (times : Nat) (keep : Option Int) :
    (rounds : Nat) → σ → List Call × σ
  | 0, state => ([], state)
  | rounds + 1, state =>
    let first := source.roundDue faces times keep state
    let others := callsDue faces times keep rounds first.2
    (first.1 ++ others.1, others.2)

end Source

namespace Play

variable {σ α β : Type}

/-- The run from a state makes the calls that are due, comes to a good answer and leaves the state
that is due; or it fails, and has made the first ones of these calls. -/
structure Follows (play : Play σ α) (state : σ) (due : List Call) (after : σ)
    (good : α → Prop) : Prop where
  answered : ∀ answer, (play.run state).result = .ok answer →
    good answer ∧ (play.run state).calls = due ∧ (play.run state).source = after
  failed : ∀ failure, (play.run state).result = .error failure → (play.run state).calls <+: due

namespace Follows

variable {play : Play σ α} {state between after : σ} {due more : List Call} {good : α → Prop}
  {goodAfter : β → Prop}

theorem pure {answer : α} (holds : good answer) :
    Follows (Pure.pure answer : Play σ α) state [] state good := by
  constructor
  · intro other result
    cases result
    exact ⟨holds, rfl, rfl⟩
  · intro failure result
    cases result

/-- What involves no source makes no call, also if it fails. -/
theorem ofExcept (result : Except Failure α) :
    Follows (Play.ofExcept result) state [] state fun _ => True := by
  constructor
  · intro answer answered
    exact ⟨trivial, rfl, rfl⟩
  · intro failure failed
    exact List.prefix_rfl

theorem report (event : Event) : Follows (Play.report event) state [] state fun _ => True := by
  constructor
  · intro answer answered
    exact ⟨trivial, rfl, rfl⟩
  · intro failure failed
    cases failed

theorem die (source : Source σ) (low high : Int) :
    Follows (Play.die source low high) state [.die low high] (source.die state low high).2
      (· = (source.die state low high).1) := by
  constructor
  · intro rolled answered
    cases answered
    exact ⟨rfl, rfl, rfl⟩
  · intro failure failed
    cases failed

/-- A sample is called for also if it is refused. -/
theorem sample (source : Source σ) (population : List Int) (size : Int) :
    Follows (Play.sample source population size) state [.sample population size]
      (source.sample state population size).2 fun _ => True := by
  constructor
  · intro drawn answered
    rw [run_sample]
    exact ⟨trivial, rfl, rfl⟩
  · intro failure failed
    simp [run_sample]

/-- One computation after another follows the calls of both. If the first one fails, the calls of
the second one are not made. -/
theorem bind {next : α → Play σ β} (first : Follows play state due between good)
    (rest : ∀ answer, good answer → Follows (next answer) between more after goodAfter) :
    Follows (play >>= next) state (due ++ more) after goodAfter := by
  cases before : (play.run state).result with
  | error fault =>
    have made := first.failed fault before
    constructor
    · intro answer answered
      rw [run_bind_of_error before] at answered
      cases answered
    · intro failure failed
      rw [run_bind_of_error before]
      exact made.trans (List.prefix_append due more)
  | ok answer =>
    rcases first.answered answer before with ⟨holds, calls, source⟩
    have follows := rest answer holds
    rw [← source] at follows
    constructor
    · intro last answered
      rw [run_bind_of_ok before] at answered ⊢
      rcases follows.answered last answered with ⟨holdsAfter, callsAfter, sourceAfter⟩
      exact ⟨holdsAfter, congrArg₂ List.append calls callsAfter, sourceAfter⟩
    · intro failure failed
      rw [run_bind_of_ok before] at failed ⊢
      dsimp only
      rw [calls]
      exact (List.prefix_append_right_inj due).mpr (follows.failed failure failed)

/-- After a computation that calls for nothing the calls of the next one are due. -/
theorem silent_bind {next : α → Play σ β} (first : Follows play state [] state good)
    (rest : ∀ answer, Follows (next answer) state due after goodAfter) :
    Follows (play >>= next) state due after goodAfter :=
  first.bind fun answer _ => rest answer

theorem bind_silent {next : α → Play σ β} (first : Follows play state due after good)
    (rest : ∀ answer, Follows (next answer) after [] after goodAfter) :
    Follows (play >>= next) state due after goodAfter := by
  have follows := first.bind fun answer _ => rest answer
  rw [List.append_nil] at follows
  exact follows

theorem map {f : α → β} (follows : Follows play state due after good)
    (enough : ∀ answer, good answer → goodAfter (f answer)) :
    Follows (f <$> play) state due after goodAfter := by
  have mapped : Follows (play >>= fun answer => Pure.pure (f answer)) state (due ++ []) after
      goodAfter := follows.bind fun answer holds => pure (enough answer holds)
  rw [List.append_nil, ← map_eq_pure_bind] at mapped
  exact mapped

theorem say (remark : Remark) : Follows (Play.say remark) state [] state fun _ => True :=
  ofExcept (discard remark.phrase.written)

theorem sayAll (remarks : List Remark) :
    Follows (Play.sayAll remarks) state [] state fun _ => True := by
  rw [Play.sayAll]
  induction remarks with
  | nil => exact pure trivial
  | cons remark remarks hypothesis =>
    change Follows (Play.say remark >>= fun _ => remarks.forM Play.say) _ _ _ _
    exact (say remark).silent_bind fun _ => hypothesis

end Follows

end Play

/-- The want of faces is told as it is just if their number can be written. -/
theorem Failure.worded_noFaces (faces : Int) :
    (noFaces faces).worded =
      if Numeral.Fits faces then noFaces faces else numeral .unwritable := by
  have legible : (noFaces faces).phrase.legible = true ↔ Numeral.Fits faces := by
    simp [phrase, Phrase.legible, Piece.legible]
  rw [worded]
  exact if_congr legible rfl rfl

namespace Command

open Play

variable {σ : Type} {source : Source σ} {command : Command} {state : σ}

/-! ## One round -/

theorem throwDie_follows {faces : Int} (faces_pos : 1 ≤ faces) :
    Follows (throwDie source faces) state [.die 1 faces] (source.die state 1 faces).2
      (· = (source.die state 1 faces).1) := by
  have someFaces : ¬ faces < 1 := by omega
  rw [throwDie, if_neg someFaces]
  exact Follows.die source 1 faces

theorem throwDice_follows {faces : Int} (faces_pos : 1 ≤ faces) (count : Nat) (number : Int) :
    Follows (throwDice source faces count number) state (List.replicate count (.die 1 faces))
      (source.throws faces count state).2 (· = (source.throws faces count state).1) := by
  induction count generalizing number state with
  | zero => exact Follows.pure rfl
  | succ count hypothesis =>
    change Follows (throwDie source faces >>= fun die => Play.say (.thrown number die) >>=
      fun _ => (die :: ·) <$> throwDice source faces count (number + 1)) _ _ _ _
    rw [List.replicate_succ, ← List.singleton_append, Source.throws]
    refine (throwDie_follows faces_pos).bind fun die rolled => ?_
    refine (Follows.say (.thrown number die)).silent_bind fun _ => ?_
    refine (hypothesis (number + 1)).map fun dice thrown => ?_
    rw [rolled, thrown]

theorem sampleDue_of_keepAll {dice : List Int} (keepAll : command.keeping = none) :
    source.sampleDue command.keep dice state = ([], state) := by
  rw [keeping, Option.filter_eq_none_iff] at keepAll
  cases held : command.keep with
  | none => rfl
  | some size =>
    have zero : size = 0 := by simpa using keepAll size held
    rw [Source.sampleDue, if_pos zero]

theorem keepDice_follows (dice : List Int) :
    Follows (keepDice source command dice) state (source.sampleDue command.keep dice state).1
      (source.sampleDue command.keep dice state).2 fun _ => True := by
  unfold keepDice
  split
  · rename_i keepAll
    rw [sampleDue_of_keepAll keepAll]
    exact Follows.pure trivial
  · rename_i size keeping
    rcases keeping_eq_some_iff.mp keeping with ⟨held, nonzero⟩
    rw [held, Source.sampleDue, if_neg nonzero]
    refine (Follows.sample source dice (min size dice.length)).bind_silent fun kept => ?_
    exact (Follows.say _).silent_bind fun _ => Follows.pure trivial

/-- After its dice a round calls for nothing. -/
theorem playRound_follows (faces_pos : 1 ≤ command.faces) (number : Int) :
    Follows (playRound source command number) state
      (source.roundDue command.faces command.times.toNat command.keep state).1
      (source.roundDue command.faces command.times.toNat command.keep state).2
      fun _ => True := by
  rw [playRound, Source.roundDue]
  refine (throwDice_follows faces_pos command.times.toNat 1).bind fun dice thrown => ?_
  rw [← thrown]
  refine (keepDice_follows dice).bind_silent fun kept => ?_
  exact (Follows.sayAll _).silent_bind fun _ => Follows.pure trivial

/-! ## All rounds -/

theorem playRounds_follows (faces_pos : 1 ≤ command.faces) (count : Nat) (number : Int) :
    Follows (playRounds source command count number) state
      (source.callsDue command.faces command.times.toNat command.keep count state).1
      (source.callsDue command.faces command.times.toNat command.keep count state).2
      fun _ => True := by
  induction count generalizing number state with
  | zero => exact Follows.pure trivial
  | succ count hypothesis =>
    rw [playRounds, Source.callsDue]
    refine (playRound_follows faces_pos number).bind fun round _ => ?_
    exact (hypothesis (number + 1)).map fun _ _ => trivial

/-- The rounds are all that a roll calls for. -/
theorem evaluate_follows (faces_pos : 1 ≤ command.faces) (text : Option String) :
    Follows (command.evaluate source text) state
      (source.callsDue command.faces command.times.toNat command.keep
        command.rounds.toNat state).1
      (source.callsDue command.faces command.times.toNat command.keep
        command.rounds.toNat state).2
      fun _ => True := by
  have someFaces : ¬ command.faces < 1 := by omega
  rw [evaluate, if_neg someFaces]
  refine (Follows.ofExcept _).silent_bind fun name => ?_
  rw [playAll]
  refine (Follows.report _).silent_bind fun _ => ?_
  refine (playRounds_follows faces_pos command.rounds.toNat 1).bind_silent fun rounds => ?_
  refine (Follows.say _).silent_bind fun _ => ?_
  refine (Follows.ofExcept _).silent_bind fun _ => ?_
  exact (Follows.report _).silent_bind fun _ => Follows.pure trivial

theorem run_evaluate_of_faceless (faceless : command.faces < 1) (text : Option String) :
    (command.evaluate source text).run state =
      ⟨.error (Failure.noFaces command.faces).worded, state, [], []⟩ := by
  rw [evaluate, if_pos faceless, run_fail]

/-- A roll of dice without faces fails before its first call, and tells of the want of faces unless
their number is too long to be written. Any other roll makes the calls that are due in its rounds,
in order, and leaves the source in the state they lead to if it answers; if it fails, it has made
the first ones of them and no other call. -/
theorem evaluate_makes_calls_due (source : Source σ) (command : Command) (text : Option String)
    (state : σ) :
    let ran := (command.evaluate source text).run state
    let due := source.callsDue command.faces command.times.toNat command.keep
      command.rounds.toNat state
    (command.faces < 1 → ran.calls = [] ∧ ran.source = state ∧
        (Numeral.Fits command.faces → ran.result = .error (.noFaces command.faces)) ∧
        (¬ Numeral.Fits command.faces → ran.result = .error (.numeral .unwritable))) ∧
      (1 ≤ command.faces → ∀ report, ran.result = .ok report →
        ran.calls = due.1 ∧ ran.source = due.2) ∧
      (∀ failure, ran.result = .error failure → ran.calls <+: due.1) := by
  intro ran due
  by_cases faceless : command.faces < 1
  · have failed : ran = ⟨.error (Failure.noFaces command.faces).worded, state, [], []⟩ :=
      run_evaluate_of_faceless faceless text
    rw [failed, Failure.worded_noFaces]
    refine ⟨fun _ => ⟨rfl, rfl, fun fits => ?_, fun unfit => ?_⟩, fun faces_pos => ?_,
      fun failure _ => ?_⟩
    · rw [if_pos fits]
    · rw [if_neg unfit]
    · omega
    · exact List.nil_prefix
  · have faces_pos : 1 ≤ command.faces := by omega
    have follows : Follows (command.evaluate source text) state due.1 due.2 fun _ => True :=
      evaluate_follows faces_pos text
    refine ⟨fun faceless => ?_, fun _ report answered => ?_, follows.failed⟩
    · omega
    · exact (follows.answered report answered).2

/-- That dice have no faces is not always told: the number of their faces can be too long. -/
theorem evaluate_of_unwritable_faces :
    ¬ ∀ {σ : Type} (source : Source σ) (command : Command) (text : Option String) (state : σ),
      command.faces < 1 →
        ((command.evaluate source text).run state).result = .error (.noFaces command.faces) := by
  intro tells
  let command : Command := { faces := -Numeral.bound }
  have faceless : command.faces < 1 := by
    change -(Numeral.bound : Int) < 1
    omega
  have unfit : ¬ Numeral.Fits command.faces := by
    change ¬ (-(Numeral.bound : Int)).natAbs < Numeral.bound
    omega
  have told := tells Source.scripted command none (.constant 1 false) faceless
  rw [run_evaluate_of_faceless faceless, Failure.worded_noFaces, if_neg unfit] at told
  cases told

/-- A sample that is refused ends the roll in the first of its two rounds. -/
example :
    let command : Command := ⟨2, 6, some (-1), true, false, 3, 7, 2⟩
    let script := Script.cycle #[5, 6, 1] 0 false
    ((command.evaluate .scripted none).run script).calls =
        [.die 1 6, .die 1 6, .sample [5, 6] (-1)] ∧
      (Source.scripted.callsDue 6 2 (some (-1)) 2 script).1 =
        [.die 1 6, .die 1 6, .sample [5, 6] (-1), .die 1 6, .die 1 6, .sample [1, 5] (-1)] := by
  decide +kernel

end Command

end DiceTower
