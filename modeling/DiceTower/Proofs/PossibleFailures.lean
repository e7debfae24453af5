import DiceTower.Proofs.LawfulRounds
import DiceTower.Proofs.Mentions
import DiceTower.Proofs.WholeRoll

/-!
# What can fail in an execution

A command that was read has dice with faces, throws at least one of them, and never asks to keep
more than were thrown. So an execution asks of its source only what a source can do
(`Command.asks_playAll`), whatever numbers the source gives. If the source does it, an execution
fails for a limit or for a numeral that is too long, and for nothing else.

The main statement is `Options.execute_fails_only`.
-/

namespace DiceTower

open Play

/-- What is asked of a source can be done: there is a number between the bounds, or a sample of
that size. -/
def Call.Feasible : Call → Prop
  | die low high => low ≤ high
  | sample population size => 0 ≤ size ∧ size ≤ population.length

/-- The source refuses no sample that can be drawn. -/
def Source.Willing {σ : Type} (source : Source σ) : Prop :=
  ∀ state population size, (source.sample state population size).1 = none →
    size < 0 ∨ (population.length : Int) < size

namespace Play

variable {σ α β : Type} {asked : Call → Prop} {play : Play σ α}

/-- All calls of a run are of a kind, those of a run that fails too. -/
def Asks (play : Play σ α) (asked : Call → Prop) : Prop :=
  ∀ state, ∀ call ∈ (play.run state).calls, asked call

theorem Asks.pure (answer : α) : Asks (Pure.pure answer : Play σ α) asked := by
  intro state call member
  cases member

theorem Asks.ofExcept (result : Except Failure α) : Asks (ofExcept result : Play σ α) asked := by
  intro state call member
  cases member

theorem Asks.report (event : Event) : Asks (report event : Play σ Unit) asked := by
  intro state call member
  cases member

theorem Asks.die {source : Source σ} {low high : Int} (holds : asked (.die low high)) :
    Asks (die source low high) asked := by
  intro state call member
  rw [run_die] at member
  rw [List.mem_singleton.mp member]
  exact holds

theorem Asks.sample {source : Source σ} {population : List Int} {size : Int}
    (holds : asked (.sample population size)) : Asks (sample source population size) asked := by
  intro state call member
  rw [run_sample] at member
  rw [List.mem_singleton.mp member]
  exact holds

theorem Asks.bind {next : α → Play σ β} (first : Asks play asked)
    (after : ∀ answer, Asks (next answer) asked) : Asks (play >>= next) asked := by
  intro state call member
  cases result : (play.run state).result with
  | error failure =>
    rw [run_bind_of_error result] at member
    exact first state call member
  | ok answer =>
    rw [run_bind_of_ok result] at member
    rcases List.mem_append.mp member with before | later
    · exact first state call before
    · exact after answer _ call later

theorem Asks.map (f : α → β) (asks : Asks play asked) : Asks (f <$> play) asked := by
  rw [map_eq_pure_bind]
  exact asks.bind fun answer => .pure (f answer)

theorem Asks.sayAll (remarks : List Remark) : Asks (sayAll remarks : Play σ Unit) asked := by
  rw [Play.sayAll]
  induction remarks with
  | nil => exact .pure ()
  | cons remark remarks hypothesis => exact Asks.bind (.ofExcept _) fun _ => hypothesis

end Play

theorem Failure.worded_eq_or (failure : Failure) :
    failure.worded = failure ∨ failure.worded = numeral .unwritable := by
  unfold worded
  split
  · exact .inl rfl
  · exact .inr rfl

namespace Command

variable {σ : Type} (source : Source σ) {command : Command}

/-! ## What a roll asks for -/

theorem asks_throwDice {faces : Int} (faces_pos : 1 ≤ faces) (count : Nat) (number : Int) :
    Asks (throwDice source faces count number) Call.Feasible := by
  induction count generalizing number with
  | zero => exact .pure []
  | succ count hypothesis =>
    have thrown : Asks (throwDie source faces) Call.Feasible := by
      rw [throwDie, if_neg (by omega)]
      exact .die faces_pos
    refine thrown.bind fun die => Asks.bind (.ofExcept _) fun _ => ?_
    exact (hypothesis (number + 1)).map _

theorem asks_keepDice (keep_pos : ∀ keep, command.keep = some keep → 1 ≤ keep) (dice : List Int) :
    Asks (keepDice source command dice) Call.Feasible := by
  unfold keepDice
  split
  · exact .pure dice
  · rename_i keep keeping
    have positive := keep_pos keep (keeping_eq_some_iff.mp keeping).1
    have feasible : Call.Feasible (.sample dice (min keep dice.length)) := by
      unfold Call.Feasible
      omega
    exact (Asks.sample feasible).bind fun kept => Asks.bind (.ofExcept _) fun _ => .pure kept

theorem asks_playRound (wellformed : command.Wellformed) (number : Int) :
    Asks (playRound source command number) Call.Feasible :=
  (asks_throwDice source wellformed.faces_pos _ _).bind fun dice =>
    (asks_keepDice source wellformed.keep_pos dice).bind fun _ =>
      (Asks.sayAll _).bind fun _ => .pure _

theorem asks_playRounds (wellformed : command.Wellformed) (count : Nat) (number : Int) :
    Asks (playRounds source command count number) Call.Feasible := by
  induction count generalizing number with
  | zero => exact .pure []
  | succ count hypothesis =>
    exact (asks_playRound source wellformed number).bind fun round =>
      (hypothesis (number + 1)).map _

theorem asks_playAll (wellformed : command.Wellformed) (text : String) :
    Asks (playAll source command text) Call.Feasible := by
  unfold playAll
  refine (Asks.report _).bind fun _ => ?_
  refine (asks_playRounds source wellformed _ _).bind fun rounds => ?_
  refine Asks.bind (.ofExcept _) fun _ => Asks.bind (.ofExcept _) fun _ => ?_
  exact (Asks.report _).bind fun _ => .pure _

/-! ## What can fail -/

/-- A willing source draws what a round keeps, so only numerals are left to fail. -/
theorem mishaps_of_willing {source : Source σ} (willing : source.Willing)
    (wellformed : command.Wellformed) :
    Mishaps source command (· = .numeral .unwritable) where
  thrown _ _ _ _ _ _ := rfl
  refused dice keep keeping _ refuses := by
    obtain ⟨state, nothing⟩ := refuses
    have positive := wellformed.keep_pos keep (keeping_eq_some_iff.mp keeping).1
    have unfit := willing state dice _ nothing
    omega
  told _ _ _ _ _ _ _ _ _ := rfl

theorem unwritable_of_playAll {source : Source σ} {state : σ} {failure : Failure}
    (willing : source.Willing) (wellformed : command.Wellformed) {text : String}
    (failed : ((playAll source command text).run state).result = .error failure) :
    failure = .numeral .unwritable :=
  (playAll_ends wellformed (mishaps_of_willing willing wellformed) rfl text).failed state failure
    failed

end Command

namespace Options

variable {σ : Type} {options : Options} {source : Source σ} {given : Option String}

/-- An execution with a willing source is refused for a limit or fails for a numeral that is too
long, and there is no other failure; and it asks only for what can be done, failed or not. -/
theorem execute_fails_only (willing : source.Willing) (state : σ) :
    let ran := (options.execute source given).run state
    (∀ failure, ran.result = .error failure →
      (∃ field value limit, failure = .overLimit field value limit) ∨
        ∃ fault, failure = .numeral fault) ∧
      ∀ call ∈ ran.calls, call.Feasible := by
  intro ran
  have course : Course options source given state ran := course options source given state
  clear_value ran
  cases course with
  | unread reads =>
    rcases Command.unreadable_of_read reads with ⟨count, rfl⟩
    constructor
    · intro failure failed
      exact .inr ⟨.unreadable count, (Except.error.inj failed).symm⟩
    · intro call member
      cases member
  | @refused command field limit reads exceeded =>
    constructor
    · intro failure failed
      rw [← Except.error.inj failed]
      rcases Failure.worded_eq_or (.overLimit field (command.get field) limit) with same | long
      · exact .inl ⟨field, _, limit, same⟩
      · exact .inr ⟨_, long⟩
    · intro call member
      cases member
  | rolled reads within =>
    have wellformed := Command.wellformed_of_read reads
    constructor
    · intro failure failed
      exact .inr ⟨_, Command.unwritable_of_playAll willing wellformed failed⟩
    · exact Command.asks_playAll source wellformed _ state

theorem execute_fails_only_of_zeros :
    let options : Options := { command := " ", limits := { faces := some 19 } }
    let refused := (options.execute .scripted (some "0d0(k0)x0")).run (.constant 1 false)
    let kept := (({} : Options).execute .scripted (some "2x(3d6(k9)-H")).run
      (.cycle #[3, 50] 0 true)
    Source.scripted.Willing ∧
      (∃ failure, refused.result = .error failure ∧
        ((∃ field value limit, failure = .overLimit field value limit) ∨
          ∃ fault, failure = .numeral fault)) ∧
      Call.sample [50, 3, 50] 3 ∈ kept.calls ∧ ∀ call ∈ kept.calls, call.Feasible := by
  intro options refused kept
  have willing : Source.scripted.Willing := by
    intro state population size nothing
    change (Source.sampled Script.draw state population size).1 = none at nothing
    unfold Source.sampled at nothing
    split at nothing
    · assumption
    · cases nothing
  have answered : refused.result.toOption = none := by decide +kernel
  refine ⟨willing, ?_, by decide +kernel, (execute_fails_only willing (.cycle #[3, 50] 0 true)).2⟩
  cases result : refused.result with
  | ok report =>
    rw [result] at answered
    cases answered
  | error failure =>
    exact ⟨failure, rfl, (execute_fails_only willing (.constant 1 false)).1 failure result⟩

end Options

end DiceTower
