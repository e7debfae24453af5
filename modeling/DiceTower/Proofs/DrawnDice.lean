import DiceTower.Proofs.CountedDice
import DiceTower.Proofs.LawfulSource
import DiceTower.Proofs.WholeRoll

/-!
# The dice of a roll

A round takes its dice from the source one after the other, each from the state that the one before
has left, and then draws those to keep. `Command.Draws` follows the source through a round in this
way, and `Command.DrawsAll` through the rounds of a roll. All else in a run that answers, its calls
and its report, is told by the dice that were drawn: `Command.Unrolled` says how, and
`Command.exists_unrolled` that every such run is told so.

`Outcome.AccountsFor` says in plain terms what an outcome holds of the dice of its round. On a
source that keeps to the faces of its dice and samples what it is given (`Source.Honest`) every
outcome does so, whatever the integers of the command. The main statement is
`Command.evaluate_accounts`.
-/

namespace DiceTower

open Play

namespace Source

variable {σ : Type} {source : Source σ}

/-- A source that rolls faces of a die and draws samples of the size asked for from their
population. It may refuse any sample. -/
structure Honest (source : Source σ) : Prop where
  die_mem : ∀ state faces, 1 ≤ faces →
    1 ≤ (source.die state 1 faces).1 ∧ (source.die state 1 faces).1 ≤ faces
  drawn_of_sample : ∀ state population size drawn,
    (source.sample state population size).1 = some drawn →
      (drawn.length : Int) = size ∧ DrawnFrom drawn population

theorem Lawful.honest (lawful : source.Lawful) : source.Honest where
  die_mem state faces some := lawful.die_mem state 1 faces some
  drawn_of_sample := lawful.drawn_of_sample

/-- The dice that come one after the other from a state on, and the state after them. -/
inductive Rolls (source : Source σ) (faces : Int) : σ → List Int → σ → Prop
  | nil {state : σ} : Rolls source faces state [] state
  | cons {state between after : σ} {die : Int} {dice : List Int}
      (first : source.die state 1 faces = (die, between))
      (others : Rolls source faces between dice after) :
      Rolls source faces state (die :: dice) after

theorem Rolls.between (honest : source.Honest) {faces : Int} (faces_pos : 1 ≤ faces)
    {state after : σ} {dice : List Int} (rolls : source.Rolls faces state dice after) :
    ∀ die ∈ dice, 1 ≤ die ∧ die ≤ faces := by
  induction rolls with
  | nil => exact List.forall_mem_nil _
  | @cons state between after die dice first others hypothesis =>
    have rolled := honest.die_mem state faces faces_pos
    rw [first] at rolled
    exact List.forall_mem_cons.mpr ⟨rolled, hypothesis⟩

end Source

/-- The dice of a round. -/
structure Draw where
  /-- The dice as thrown. -/
  dice : List Int
  /-- The dice that are kept. -/
  kept : List Int

namespace Command

variable {σ : Type}

/-- The command asks for a number of dice to be kept; zero asks for none. -/
def Chooses (command : Command) : Prop :=
  ∃ keep, command.keep = some keep ∧ keep ≠ 0

/-- The command selects one of the dice that are kept, and there are any. -/
def Selects (command : Command) (kept : List Int) : Prop :=
  (command.highest = true ∨ command.lowest = true) ∧ kept ≠ []

/-- The dice that are kept of those thrown: all, or those that the source draws. -/
inductive Keeping (source : Source σ) (command : Command) (dice : List Int) :
    σ → List Int → σ → Prop
  | all {state : σ} (keepAll : ¬ command.Chooses) : Keeping source command dice state dice state
  | drawn {state after : σ} {keep : Int} {kept : List Int} (held : command.keep = some keep)
      (nonzero : keep ≠ 0)
      (drew : source.sample state dice (min keep dice.length) = (some kept, after)) :
      Keeping source command dice state kept after

/-- The dice of one round as they come from a state on, and the state after them. -/
inductive Draws (source : Source σ) (command : Command) : σ → Draw → σ → Prop
  | round {state thrown after : σ} {dice kept : List Int}
      (count : dice.length = command.times.toNat)
      (rolls : source.Rolls command.faces state dice thrown)
      (keeping : Keeping source command dice thrown kept after) :
      Draws source command state ⟨dice, kept⟩ after

/-- The dice of some rounds, each drawn from the state that the one before has left. -/
inductive DrawsAll (source : Source σ) (command : Command) : σ → List Draw → σ → Prop
  | nil {state : σ} : DrawsAll source command state [] state
  | cons {state between after : σ} {draw : Draw} {draws : List Draw}
      (first : Draws source command state draw between)
      (rest : DrawsAll source command between draws after) :
      DrawsAll source command state (draw :: draws) after

theorem keeping_eq_none_iff {command : Command} : command.keeping = none ↔ ¬ command.Chooses := by
  rw [keeping, Option.filter_eq_none_iff]
  simp [Chooses]

end Command

namespace Play

/-! ## Runs that answer -/

variable {σ α β : Type}

/-- The run from a state gives an answer and leaves the source in a state. -/
structure Answers (play : Play σ α) (state : σ) (answer : α) (after : σ) : Prop where
  result : (play.run state).result = .ok answer
  source : (play.run state).source = after

namespace Answers

variable {play : Play σ α} {state after : σ} {answer : α}

theorem of_pure {value : α} (answers : (pure value : Play σ α).Answers state answer after) :
    answer = value ∧ after = state := by
  rcases answers with ⟨⟨⟩, rfl⟩
  exact ⟨rfl, rfl⟩

theorem of_ofExcept {result : Except Failure α}
    (answers : (ofExcept result : Play σ α).Answers state answer after) :
    result = .ok answer ∧ after = state := by
  rcases answers with ⟨rfl, rfl⟩
  exact ⟨rfl, rfl⟩

/-- Both parts answer, the second one from the state that the first has left. -/
theorem of_bind {next : α → Play σ β} {last : β}
    (answers : (play >>= next).Answers state last after) :
    ∃ answer between, play.Answers state answer between ∧
      (next answer).Answers between last after := by
  obtain ⟨result, source⟩ := answers
  cases before : (play.run state).result with
  | error failure =>
    rw [run_bind_of_error before] at result
    cases result
  | ok answer =>
    rw [run_bind_of_ok before] at result source
    exact ⟨answer, _, ⟨before, rfl⟩, result, source⟩

theorem of_map {f : α → β} {last : β} (answers : (f <$> play).Answers state last after) :
    ∃ answer, play.Answers state answer after ∧ last = f answer := by
  rw [map_eq_pure_bind] at answers
  obtain ⟨answer, between, first, second⟩ := of_bind answers
  obtain ⟨rfl, rfl⟩ := of_pure second
  exact ⟨answer, first, rfl⟩

/-- The second part calls from the state that the first has left. -/
theorem calls_bind {next : α → Play σ β} (answers : play.Answers state answer after) :
    ((play >>= next).run state).calls =
      (play.run state).calls ++ ((next answer).run after).calls := by
  rw [run_bind_of_ok answers.result]
  dsimp only
  rw [answers.source]

theorem calls_eq_nil (answers : play.Answers state answer after)
    (silent : Ends play (fun _ => True) fun _ calls => calls = []) :
    (play.run state).calls = [] :=
  silent.answered state answer answers.result

theorem of_die {source : Source σ} {low high die : Int}
    (answers : (Play.die source low high).Answers state die after) :
    source.die state low high = (die, after) := by
  rcases answers with ⟨⟨⟩, rfl⟩
  rfl

theorem of_sample {source : Source σ} {population drawn : List Int} {size : Int}
    (answers : (Play.sample source population size).Answers state drawn after) :
    source.sample state population size = (some drawn, after) := by
  obtain ⟨result, left⟩ := answers
  rw [run_sample] at result left
  cases answer : (source.sample state population size).1 with
  | none =>
    rw [answer] at result
    cases result
  | some other =>
    rw [answer] at result
    cases result
    exact Prod.ext answer left

theorem of_report {event : Event} {done : Unit}
    (answers : (report event : Play σ Unit).Answers state done after) : after = state :=
  answers.source.symm

/-- Words leave the source alone. -/
theorem of_say {remark : Remark} {done : Unit}
    (answers : (say remark : Play σ Unit).Answers state done after) : after = state :=
  (of_ofExcept answers).2

theorem of_sayAll {remarks : List Remark} {done : Unit}
    (answers : (sayAll remarks : Play σ Unit).Answers state done after) : after = state := by
  rw [sayAll] at answers
  induction remarks generalizing state with
  | nil => exact (of_pure answers).2
  | cons remark remarks hypothesis =>
    obtain ⟨_, between, first, others⟩ := of_bind answers
    rw [hypothesis others, of_say first]

end Answers

end Play

namespace Command

variable {σ : Type} {source : Source σ} {command : Command} {state after : σ}

/-! ## What is drawn in a run -/

theorem rolls_of_throwDice {faces number : Int} {count : Nat} {dice : List Int}
    (answers : (throwDice source faces count number).Answers state dice after) :
    dice.length = count ∧ source.Rolls faces state dice after := by
  induction count generalizing number state dice with
  | zero =>
    obtain ⟨rfl, rfl⟩ := Answers.of_pure answers
    exact ⟨rfl, .nil⟩
  | succ count hypothesis =>
    obtain ⟨die, between, first, answers⟩ := Answers.of_bind answers
    obtain ⟨_, told, said, answers⟩ := Answers.of_bind answers
    obtain ⟨others, rest, rfl⟩ := Answers.of_map answers
    obtain rfl := Answers.of_say said
    obtain ⟨length, rolls⟩ := hypothesis rest
    refine ⟨congrArg Nat.succ length, .cons ?_ rolls⟩
    unfold throwDie at first
    split at first
    · cases (Answers.of_ofExcept first).1
    · exact Answers.of_die first

theorem keeping_of_keepDice {dice kept : List Int}
    (answers : (keepDice source command dice).Answers state kept after) :
    Keeping source command dice state kept after := by
  unfold keepDice at answers
  split at answers
  · rename_i keepAll
    obtain ⟨rfl, rfl⟩ := Answers.of_pure answers
    exact .all (keeping_eq_none_iff.mp keepAll)
  · rename_i keep keeping
    obtain ⟨held, nonzero⟩ := keeping_eq_some_iff.mp keeping
    obtain ⟨drawn, between, drew, answers⟩ := Answers.of_bind answers
    obtain ⟨_, told, said, answers⟩ := Answers.of_bind answers
    obtain ⟨rfl, rfl⟩ := Answers.of_pure answers
    obtain rfl := Answers.of_say said
    exact .drawn held nonzero (Answers.of_sample drew)

/-- The outcome of a draw. -/
def outcomeOf (command : Command) (draw : Draw) : Outcome :=
  Outcome.ofDice command draw.dice draw.kept

/-- What the round of a number comes to with a draw, and its steps. -/
def roundOf (command : Command) (number : Int) (draw : Draw) : Outcome × List Remark :=
  (command.outcomeOf draw, Remark.ofRound command number draw.dice draw.kept)

/-- What the rounds from a number on come to with their draws. -/
def roundsOf (command : Command) : (number : Int) → List Draw → List (Outcome × List Remark)
  | _, [] => []
  | number, draw :: draws => command.roundOf number draw :: command.roundsOf (number + 1) draws

/-- The calls of the rounds with some draws. -/
def callsOf (command : Command) (draws : List Draw) : List Call :=
  draws.flatMap fun draw => command.roundCalls draw.dice

theorem map_fst_roundsOf (number : Int) (draws : List Draw) :
    (command.roundsOf number draws).map Prod.fst = draws.map command.outcomeOf := by
  induction draws generalizing number with
  | nil => rfl
  | cons draw draws hypothesis =>
    rw [roundsOf, List.map_cons, List.map_cons, hypothesis, roundOf]

/-- A round throws its dice, chooses among them, and then says words that draw nothing. -/
theorem draws_of_playRound (faces_pos : 1 ≤ command.faces) {number : Int}
    {round : Outcome × List Remark}
    (answers : (playRound source command number).Answers state round after) :
    ∃ draw, Draws source command state draw after ∧ round = command.roundOf number draw ∧
      ((playRound source command number).run state).calls = command.roundCalls draw.dice := by
  obtain ⟨dice, thrown, threw, answers⟩ := Answers.of_bind answers
  obtain ⟨kept, left, chose, answers⟩ := Answers.of_bind answers
  have throwEnds : Ends (throwDice source command.faces command.times.toNat 1) (fun _ => True) _ :=
    throwDice_ends faces_pos _ _ fun _ _ _ _ _ _ => trivial
  have chooseEnds : Ends (keepDice source command dice) (fun _ => True) _ :=
    keepDice_ends dice (fun _ _ _ => trivial) fun _ _ _ _ _ => trivial
  obtain ⟨-, -, threwCalls⟩ := throwEnds.answered state dice threw.result
  obtain ⟨-, choseCalls⟩ := chooseEnds.answered thrown kept chose.result
  have saidCalls := answers.calls_eq_nil (Ends.sayAll_bind (fun _ _ _ => trivial) (Ends.pure rfl))
  have calls : ((playRound source command number).run state).calls = command.roundCalls dice := by
    rw [playRound, threw.calls_bind, chose.calls_bind, threwCalls, choseCalls, saidCalls]
    rw [List.append_nil, roundCalls]
  obtain ⟨_, told, said, answers⟩ := Answers.of_bind answers
  obtain ⟨rfl, rfl⟩ := Answers.of_pure answers
  obtain rfl := Answers.of_sayAll said
  obtain ⟨count, rolls⟩ := rolls_of_throwDice threw
  exact ⟨⟨dice, kept⟩, .round count rolls (keeping_of_keepDice chose), rfl, calls⟩

theorem drawsAll_of_playRounds (faces_pos : 1 ≤ command.faces) {count : Nat} {number : Int}
    {rounds : List (Outcome × List Remark)}
    (answers : (playRounds source command count number).Answers state rounds after) :
    ∃ draws, DrawsAll source command state draws after ∧ draws.length = count ∧
      rounds = command.roundsOf number draws ∧
      ((playRounds source command count number).run state).calls = command.callsOf draws := by
  induction count generalizing number state rounds with
  | zero =>
    obtain ⟨rfl, rfl⟩ := Answers.of_pure answers
    exact ⟨[], .nil, rfl, rfl, rfl⟩
  | succ count hypothesis =>
    obtain ⟨round, between, played, answers⟩ := Answers.of_bind answers
    obtain ⟨others, rest, rfl⟩ := Answers.of_map answers
    obtain ⟨draw, drawn, rfl, calls⟩ := draws_of_playRound faces_pos played
    obtain ⟨draws, drawnAfter, length, rfl, callsAfter⟩ := hypothesis rest
    refine ⟨draw :: draws, .cons drawn drawnAfter, congrArg Nat.succ length, rfl, ?_⟩
    rw [playRounds, played.calls_bind, run_map, calls, callsAfter, callsOf, callsOf,
      List.flatMap_cons]

/-- After the rounds nothing is drawn or called for. -/
theorem drawsAll_of_playAll (faces_pos : 1 ≤ command.faces) {text : String} {report : Report}
    (answers : (playAll source command text).Answers state report after) :
    ∃ draws, DrawsAll source command state draws after ∧
      draws.length = command.rounds.toNat ∧
      report = command.reportOf text (command.roundsOf 1 draws) ∧
      ((playAll source command text).run state).calls = command.callsOf draws := by
  obtain ⟨_, started, reported, answers⟩ := Answers.of_bind answers
  obtain ⟨rounds, played, roundsPlayed, answers⟩ := Answers.of_bind answers
  obtain ⟨draws, drawn, length, told, calls⟩ := drawsAll_of_playRounds faces_pos roundsPlayed
  have endCalls := answers.calls_eq_nil (Ends.say_bind (fun _ => trivial)
    (Ends.written_bind (fun _ => trivial) (Ends.report_bind (Ends.pure rfl))))
  have allCalls : ((playAll source command text).run state).calls = command.callsOf draws := by
    rw [playAll, reported.calls_bind, run_report, roundsPlayed.calls_bind, endCalls, calls,
      List.append_nil, List.nil_append]
  obtain ⟨_, totalled, said, answers⟩ := Answers.of_bind answers
  obtain ⟨_, worded, resulted, answers⟩ := Answers.of_bind answers
  obtain ⟨_, ended, evaluated, answers⟩ := Answers.of_bind answers
  obtain ⟨rfl, rfl⟩ := Answers.of_pure answers
  obtain rfl := Answers.of_report reported
  obtain rfl := Answers.of_say said
  obtain rfl := (Answers.of_ofExcept resulted).2
  obtain rfl := Answers.of_report evaluated
  refine ⟨draws, drawn, length, ?_, allCalls⟩
  rw [← told, reportOf]

/-- A run of a roll that answers with a report, told by the draws of its rounds: they are drawn one
after the other from the state on, and the calls and the report follow from them. -/
structure Unrolled (source : Source σ) (command : Command) (text : Option String) (state : σ)
    (report : Report) (draws : List Draw) : Prop where
  faces_pos : 1 ≤ command.faces
  named : text.elim command.write .ok = .ok report.text
  drawn : DrawsAll source command state draws ((command.evaluate source text).run state).source
  length : draws.length = command.rounds.toNat
  told : report = command.reportOf report.text (command.roundsOf 1 draws)
  calls : ((command.evaluate source text).run state).calls = command.callsOf draws

/-- Every run that answers has drawn its rounds in order. -/
theorem exists_unrolled {text : Option String} {report : Report}
    (answered : ((command.evaluate source text).run state).result = .ok report) :
    ∃ draws, Unrolled source command text state report draws := by
  by_cases faceless : command.faces < 1
  · rw [evaluate, if_pos faceless] at answered
    cases answered
  have faces_pos : 1 ≤ command.faces := by omega
  have composed : command.evaluate source text =
      Play.ofExcept (text.elim command.write .ok) >>= playAll source command := by
    rw [evaluate, if_neg faceless]
  obtain ⟨after, left⟩ : ∃ after, ((command.evaluate source text).run state).source = after :=
    ⟨_, rfl⟩
  have answers : (Play.ofExcept (text.elim command.write .ok) >>=
      playAll source command).Answers state report after := composed ▸ ⟨answered, left⟩
  obtain ⟨name, named, written, answers⟩ := Answers.of_bind answers
  obtain ⟨draws, drawn, length, told, calls⟩ := drawsAll_of_playAll faces_pos answers
  obtain ⟨names, rfl⟩ := Answers.of_ofExcept written
  have same : report.text = name := by rw [told, reportOf]
  subst same
  refine ⟨draws, faces_pos, names, left.symm ▸ drawn, length, told, ?_⟩
  rw [composed, written.calls_bind, run_ofExcept, calls, List.nil_append]

namespace Unrolled

variable {text : Option String} {report : Report} {draws : List Draw}
  (unrolled : Unrolled source command text state report draws)

include unrolled

theorem outcomes_eq : report.outcomes = draws.map command.outcomeOf := by
  rw [unrolled.told, reportOf, map_fst_roundsOf]

theorem remarks_eq :
    report.remarks = ((command.roundsOf 1 draws).map Prod.snd).flatten ++
      [.grandTotal report.text report.total] := by
  rw [Report.total, unrolled.outcomes_eq, ← map_fst_roundsOf 1, unrolled.told]
  rfl

end Unrolled

/-- A roll that answers has drawn the dice of its rounds, and tells what they come to. -/
theorem drawsAll_of_evaluate {text : Option String} {report : Report}
    (answered : (command.evaluate source text).Answers state report after) :
    1 ≤ command.faces ∧ ∃ draws, DrawsAll source command state draws after ∧
      draws.length = command.rounds.toNat ∧ report.outcomes = draws.map command.outcomeOf ∧
      report.remarks.getLast? = some (.grandTotal report.text report.total) := by
  obtain ⟨draws, unrolled⟩ := exists_unrolled answered.result
  refine ⟨unrolled.faces_pos, draws, ?_, unrolled.length, unrolled.outcomes_eq, ?_⟩
  · rw [← answered.source]
    exact unrolled.drawn
  · rw [unrolled.remarks_eq, List.getLast?_concat]

end Command

/-! ## What outcomes hold -/

/-- What an outcome holds of the dice of its round. -/
structure Outcome.AccountsFor (command : Command) (draw : Draw) (outcome : Outcome) : Prop where
  count : (draw.dice.length : Int) = max command.times 0
  faces : ∀ die ∈ draw.dice, 1 ≤ die ∧ die ≤ command.faces
  keptAll : ¬ command.Chooses → draw.kept = draw.dice
  keptSome : ∀ keep, command.keep = some keep → keep ≠ 0 →
    draw.kept.Subperm draw.dice ∧ (draw.kept.length : Int) = min keep draw.dice.length
  highest : command.highest = true → draw.kept ≠ [] →
    ∃ die ∈ draw.kept, (∀ other ∈ draw.kept, other ≤ die) ∧ outcome.rolls = [die]
  lowest : command.highest = false → command.lowest = true → draw.kept ≠ [] →
    ∃ die ∈ draw.kept, (∀ other ∈ draw.kept, die ≤ other) ∧ outcome.rolls = [die]
  unselected : ¬ command.Selects draw.kept → outcome.rolls = draw.kept
  thrown : command.Chooses ∨ command.Selects draw.kept → outcome.thrown = some draw.dice
  notThrown : ¬ (command.Chooses ∨ command.Selects draw.kept) → outcome.thrown = none
  total : outcome.total = outcome.rolls.sum * max command.multiplier 1 + command.modifier

namespace Command

variable {σ : Type} {source : Source σ} {command : Command} {state after : σ}
  {dice kept : List Int}

/-! ## What is selected -/

theorem selected_isSome_iff : (command.selected kept).isSome = true ↔ command.Selects kept := by
  unfold selected extreme Selects
  cases command.highest <;> cases command.lowest <;>
    simp [Extreme.of?, List.isSome_max?_iff, List.isSome_min?_iff]

/-- Among any dice there is one to select. -/
theorem exists_selected {extreme : Extreme} (asked : command.extreme = some extreme)
    (nonempty : kept ≠ []) :
    ∃ die, command.selected kept = some (extreme, die) ∧ command.counted kept = [die] := by
  have found : (extreme.of? kept).isSome = true := by
    cases extreme with
    | highest => exact List.isSome_max?_of_ne_nil nonempty
    | lowest => exact List.isSome_min?_of_ne_nil nonempty
  obtain ⟨die, extremal⟩ := Option.isSome_iff_exists.mp found
  have selected : command.selected kept = some (extreme, die) := by
    rw [Command.selected, asked, Option.bind_some, extremal]
    rfl
  exact ⟨die, selected, by rw [counted, selected]⟩

theorem counted_of_unselected (unselected : ¬ command.Selects kept) :
    command.counted kept = kept := by
  rw [← selected_isSome_iff, Option.not_isSome_iff_eq_none] at unselected
  rw [counted, unselected]

namespace Keeping

variable (keeping : Keeping source command dice state kept after)

include keeping

theorem subperm (honest : source.Honest) : kept.Subperm dice := by
  cases keeping with
  | all keepAll => exact List.Subperm.refl dice
  | drawn held nonzero drew =>
    exact (honest.drawn_of_sample _ _ _ _ (congrArg Prod.fst drew)).2.subperm

theorem eq_of_keepAll (keepAll : ¬ command.Chooses) : kept = dice := by
  cases keeping with
  | all => rfl
  | drawn held nonzero drew => exact absurd ⟨_, held, nonzero⟩ keepAll

theorem length_eq (honest : source.Honest) {keep : Int} (held : command.keep = some keep)
    (nonzero : keep ≠ 0) : (kept.length : Int) = min keep dice.length := by
  cases keeping with
  | all keepAll => exact absurd ⟨keep, held, nonzero⟩ keepAll
  | drawn alsoHeld _ drew =>
    obtain rfl := Option.some.inj (held.symm.trans alsoHeld)
    exact (honest.drawn_of_sample _ _ _ _ (congrArg Prod.fst drew)).1

end Keeping

/-- The dice are told where a choice or a selection was made among them. -/
theorem thrownDice_eq (told : command.Chooses ∨ command.Selects kept)
    (enough : kept ≠ [] → dice ≠ []) : Outcome.thrownDice command dice kept = some dice := by
  unfold Outcome.thrownDice
  split
  · rename_i selected
    rw [selected_isSome_iff] at selected
    rw [if_neg (List.isEmpty_iff.not.mpr (enough selected.2))]
  · rename_i unselected
    rw [selected_isSome_iff] at unselected
    have chooses : command.keeping.isSome = true := by
      rw [Option.isSome_iff_ne_none, ne_eq, keeping_eq_none_iff, not_not]
      exact told.resolve_right unselected
    rw [if_pos chooses]

theorem thrownDice_eq_none (untold : ¬ (command.Chooses ∨ command.Selects kept)) :
    Outcome.thrownDice command dice kept = none := by
  rw [not_or] at untold
  rw [Outcome.thrownDice, if_neg (selected_isSome_iff.not.mpr untold.2),
    keeping_eq_none_iff.mpr untold.1]
  rfl

/-! ## Rounds on an honest source -/

theorem Draws.accountsFor (honest : source.Honest) (faces_pos : 1 ≤ command.faces) {draw : Draw}
    (draws : Draws source command state draw after) :
    (command.outcomeOf draw).AccountsFor command draw := by
  rcases draws with ⟨count, rolls, keeping⟩
  constructor
  case count => exact count.symm ▸ Int.toNat_eq_max command.times
  case faces => exact rolls.between honest faces_pos
  case keptAll => exact keeping.eq_of_keepAll
  case keptSome =>
    intro keep held nonzero
    exact ⟨keeping.subperm honest, keeping.length_eq honest held nonzero⟩
  case highest =>
    intro highest nonempty
    have asked : command.extreme = some .highest := by rw [extreme, if_pos highest]
    obtain ⟨die, selected, counted⟩ := exists_selected asked nonempty
    obtain ⟨member, greatest⟩ := extremal_of_selected selected
    exact ⟨die, member, greatest, counted⟩
  case lowest =>
    intro notHighest lowest nonempty
    have asked : command.extreme = some .lowest := by
      rw [extreme, if_neg (by rw [notHighest]; decide), if_pos lowest]
    obtain ⟨die, selected, counted⟩ := exists_selected asked nonempty
    obtain ⟨member, least⟩ := extremal_of_selected selected
    exact ⟨die, member, least, counted⟩
  case unselected => exact counted_of_unselected
  case thrown =>
    -- Kept dice are told in place of thrown ones only if none were thrown, so none are kept then.
    intro told
    refine thrownDice_eq told fun nonempty none => nonempty ?_
    exact List.subperm_nil.mp (none ▸ keeping.subperm honest)
  case notThrown => exact thrownDice_eq_none
  case total =>
    rw [outcomeOf, Outcome.ofDice]
    dsimp only
    rw [multiplied_eq_mul_max, sumOf_eq_sum]

theorem DrawsAll.accountFor (honest : source.Honest) (faces_pos : 1 ≤ command.faces)
    {draws : List Draw} (drawn : DrawsAll source command state draws after) :
    List.Forall₂ (Outcome.AccountsFor command) draws (draws.map command.outcomeOf) := by
  induction drawn with
  | nil => exact .nil
  | cons first rest hypothesis => exact .cons (first.accountsFor honest faces_pos) hypothesis

/-- A roll that answers has an outcome for each round, and the outcome accounts for the dice that
the round has drawn from the source. The total it ends with is that of the outcomes. -/
theorem evaluate_accounts (honest : source.Honest) {text : Option String} {report : Report}
    (answered : ((command.evaluate source text).run state).result = .ok report) :
    ∃ draws,
      DrawsAll source command state draws ((command.evaluate source text).run state).source ∧
      (report.outcomes.length : Int) = max command.rounds 0 ∧
      List.Forall₂ (Outcome.AccountsFor command) draws report.outcomes ∧
      report.total = (report.outcomes.map Outcome.total).sum ∧
      report.remarks.getLast? = some (.grandTotal report.text report.total) := by
  obtain ⟨faces_pos, draws, drawn, length, outcomes, ends⟩ := drawsAll_of_evaluate ⟨answered, rfl⟩
  refine ⟨draws, drawn, ?_, ?_, sumOf_eq_sum _, ends⟩
  · rw [outcomes, List.length_map]
    omega
  · rw [outcomes]
    exact drawn.accountFor honest faces_pos

/-- The lowest of two dice counts, which need not be the lowest of the three thrown. -/
theorem evaluate_accounts_of_sampled_dice :
    let command : Command := ⟨3, 6, some 2, true, false, 2, -4, 2⟩
    let ran := (command.evaluate .counting none).run 4
    Source.counting.Honest ∧ ∃ report, ran.result = .ok report ∧
      report.outcomes = [⟨[5], 6, some [5, 6, 1]⟩, ⟨[4], 4, some [4, 5, 6]⟩] ∧
      (report.outcomes.length : Int) = max command.rounds 0 ∧ report.total = [6, 4].sum ∧
      ∃ draws, DrawsAll .counting command 4 draws ran.source ∧
        List.Forall₂ (Outcome.AccountsFor command) draws report.outcomes := by
  intro command ran
  have answers : (ran.result.map Report.outcomes).toOption =
      some [⟨[5], 6, some [5, 6, 1]⟩, ⟨[4], 4, some [4, 5, 6]⟩] := by
    decide +kernel
  cases answered : ran.result with
  | error failure =>
    rw [answered] at answers
    cases answers
  | ok report =>
    rw [answered] at answers
    have outcomes := Option.some.inj answers
    have honest := Source.lawful_counting.honest
    obtain ⟨draws, drawn, count, accounts, total, -⟩ := evaluate_accounts honest answered
    rw [outcomes] at total
    exact ⟨honest, report, rfl, outcomes, count, total, draws, drawn, accounts⟩

end Command

end DiceTower
