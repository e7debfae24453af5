import DiceTower.Proofs.Ending

/-!
# The rounds of a roll

A round throws its dice, keeps some of them, and all the rest is arithmetic on these. So a round
is told by two lists, the dice thrown and the dice kept (`Command.Throws`), and the rounds of a
roll are told by one such pair each (`Command.Played`), with the calls they made.

The main statements are `Command.playRound_ends`, for one round, and `Command.playRounds_ends`, for
all of them. They hold of any source: what a lawful one adds is told by `Throws` alone.
-/

namespace DiceTower

open Play

namespace Command

variable {σ : Type} {source : Source σ} {command : Command} {bad : Failure → Prop}

/-- The dice that can be kept of those thrown. -/
def Keeps (source : Source σ) (command : Command) (dice kept : List Int) : Prop :=
  match command.keeping with
  | none => kept = dice
  | some keep => source.CanSample dice (min keep dice.length) (some kept)

/-- The dice that a round can throw, and those that it can keep of them. -/
structure Throws (source : Source σ) (command : Command) (dice kept : List Int) : Prop where
  count : dice.length = command.times.toNat
  rolled : ∀ die ∈ dice, source.CanRoll 1 command.faces die
  keeps : Keeps source command dice kept

/-- The calls for keeping some of the dice. -/
def keepCalls (command : Command) (dice : List Int) : List Call :=
  (command.keeping.map fun keep => Call.sample dice (min keep dice.length)).toList

/-- The calls of a round. -/
def roundCalls (command : Command) (dice : List Int) : List Call :=
  List.replicate command.times.toNat (.die 1 command.faces) ++ keepCalls command dice

/-- The rounds that can be played from a round of some number on, with the calls they make. -/
inductive Played (source : Source σ) (command : Command) :
    Int → List (Outcome × List Remark) → List Call → Prop
  | done {number : Int} : Played source command number [] []
  | round {number : Int} {dice kept : List Int} {rounds : List (Outcome × List Remark)}
      {calls : List Call} (throws : Throws source command dice kept)
      (rest : Played source command (number + 1) rounds calls) :
      Played source command number
        ((Outcome.ofDice command dice kept, Remark.ofRound command number dice kept) :: rounds)
        (roundCalls command dice ++ calls)

/-- Every failure that a round of the command can end in is a bad one. -/
structure Mishaps (source : Source σ) (command : Command) (bad : Failure → Prop) : Prop where
  thrown : ∀ number die, 1 ≤ number → number ≤ command.times →
    source.CanRoll 1 command.faces die →
    (Remark.thrown number die).phrase.legible = false → bad (.numeral .unwritable)
  refused : ∀ dice keep, command.keeping = some keep → dice.length = command.times.toNat →
    source.CanSample dice (min keep dice.length) none → bad .unfitSample
  told : ∀ number dice kept remark, 1 ≤ number → number ≤ command.rounds →
    Throws source command dice kept →
    remark ∈ Remark.keepSteps command kept ++ Remark.reckoning command number kept →
    remark.phrase.legible = false → bad (.numeral .unwritable)

theorem Mishaps.of_bad (overgrown : bad (.numeral .unwritable)) (refused : bad .unfitSample) :
    Mishaps source command bad where
  thrown _ _ _ _ _ _ := overgrown
  refused _ _ _ _ _ := refused
  told _ _ _ _ _ _ _ _ _ := overgrown

/-! ## One round -/

theorem throwDie_ends {faces : Int} (faces_pos : 1 ≤ faces) :
    Ends (throwDie source faces) bad fun die calls =>
      source.CanRoll 1 faces die ∧ calls = [.die 1 faces] := by
  have some_faces : ¬ faces < 1 := by omega
  rw [throwDie, if_neg some_faces]
  exact Ends.die fun die rolls => ⟨rolls, rfl⟩

theorem throwDice_ends {faces : Int} (faces_pos : 1 ≤ faces) (count : Nat) (number : Int)
    (illegible : ∀ place die, number ≤ place → place < number + count →
      source.CanRoll 1 faces die → (Remark.thrown place die).phrase.legible = false →
      bad (.numeral .unwritable)) :
    Ends (throwDice source faces count number) bad fun dice calls =>
      dice.length = count ∧ (∀ die ∈ dice, source.CanRoll 1 faces die) ∧
        calls = List.replicate count (.die 1 faces) := by
  induction count generalizing number with
  | zero =>
    refine Ends.pure ⟨rfl, ?_, rfl⟩
    intro die member
    cases member
  | succ count hypothesis =>
    refine (throwDie_ends faces_pos).bind fun die calls thrown => ?_
    obtain ⟨rolls, rfl⟩ := thrown
    refine Ends.say_bind (illegible number die (by omega) (by omega) rolls) ?_
    have others := hypothesis (number + 1) fun place other low high =>
      illegible place other (by omega) (by omega)
    refine Ends.map (others.mono fun dice calls thrown => ?_)
    obtain ⟨length, all, rfl⟩ := thrown
    refine ⟨by rw [List.length_cons, length], ?_, rfl⟩
    intro other member
    rcases List.mem_cons.mp member with rfl | member
    · exact rolls
    · exact all other member

theorem keepDice_ends (dice : List Int)
    (refused : ∀ keep, command.keeping = some keep →
      source.CanSample dice (min keep dice.length) none → bad .unfitSample)
    (illegible : ∀ kept, Keeps source command dice kept →
      ∀ remark ∈ Remark.keepSteps command kept, remark.phrase.legible = false →
        bad (.numeral .unwritable)) :
    Ends (keepDice source command dice) bad fun kept calls =>
      Keeps source command dice kept ∧ calls = keepCalls command dice := by
  unfold keepDice Keeps keepCalls at *
  unfold Remark.keepSteps at illegible
  cases keeping : command.keeping with
  | none => exact Ends.pure ⟨rfl, rfl⟩
  | some keep =>
    simp only [keeping] at illegible
    have drew : Ends (sample source dice (min keep dice.length)) bad fun kept calls =>
        source.CanSample dice (min keep dice.length) (some kept) ∧
          calls = [.sample dice (min keep dice.length)] :=
      Ends.sample (refused keep keeping) fun kept draws => ⟨draws, rfl⟩
    refine drew.bind fun kept calls drawn => ?_
    obtain ⟨draws, rfl⟩ := drawn
    refine Ends.say_bind (illegible kept draws _ List.mem_cons_self) ?_
    exact Ends.pure ⟨draws, rfl⟩

/-- A round comes to what its dice come to. -/
theorem playRound_ends (faces_pos : 1 ≤ command.faces) (mishaps : Mishaps source command bad)
    {number : Int} (first : 1 ≤ number) (last : number ≤ command.rounds) :
    Ends (playRound source command number) bad fun round calls =>
      ∃ dice kept, Throws source command dice kept ∧
        round = (Outcome.ofDice command dice kept, Remark.ofRound command number dice kept) ∧
        calls = roundCalls command dice := by
  have threw := throwDice_ends faces_pos command.times.toNat 1 fun place die low high rolls =>
    mishaps.thrown place die low (by omega) rolls
  refine threw.bind fun dice calls thrown => ?_
  obtain ⟨count, rolled, rfl⟩ := thrown
  have keeps := keepDice_ends dice (fun keep keeping => mishaps.refused dice keep keeping count)
    fun kept keeps remark member => mishaps.told number dice kept remark first last
      ⟨count, rolled, keeps⟩ (List.mem_append_left _ member)
  refine keeps.bind fun kept calls kepts => ?_
  obtain ⟨keeps, rfl⟩ := kepts
  have throws : Throws source command dice kept := ⟨count, rolled, keeps⟩
  refine Ends.sayAll_bind (fun remark member => mishaps.told number dice kept remark first last
    throws (List.mem_append_right _ member)) ?_
  refine Ends.pure ⟨dice, kept, throws, rfl, ?_⟩
  simp [roundCalls]

/-! ## All rounds -/

/-- Rounds are played one after the other, each on dice of its own. -/
theorem playRounds_ends (faces_pos : 1 ≤ command.faces) (mishaps : Mishaps source command bad)
    (count : Nat) {number : Int} (first : 1 ≤ number)
    (last : number + count ≤ command.rounds + 1) :
    Ends (playRounds source command count number) bad fun rounds calls =>
      rounds.length = count ∧ Played source command number rounds calls := by
  induction count generalizing number with
  | zero => exact Ends.pure ⟨rfl, .done⟩
  | succ count hypothesis =>
    have played := playRound_ends faces_pos mishaps first (by omega)
    refine played.bind fun round calls came => ?_
    obtain ⟨dice, kept, throws, rfl, rfl⟩ := came
    have others := hypothesis (show 1 ≤ number + 1 by omega) (by omega)
    refine Ends.map (others.mono fun rounds calls played => ?_)
    obtain ⟨length, rest⟩ := played
    exact ⟨by rw [List.length_cons, length], .round throws rest⟩

/-- A round calls once for each of its dice, and once more if some are kept. -/
theorem Played.calls_length_le (times_nonneg : 0 ≤ command.times) {number : Int}
    {rounds : List (Outcome × List Remark)} {calls : List Call}
    (played : Played source command number rounds calls) :
    (calls.length : Int) ≤ rounds.length * (command.times + 1) := by
  induction played with
  | done => exact Int.le_of_eq (Int.zero_mul _).symm
  | @round number dice kept rounds calls throws rest hypothesis =>
    have chosen : (keepCalls command dice).length ≤ 1 := by
      unfold keepCalls
      cases command.keeping <;> simp
    rw [roundCalls, List.length_append, List.length_append, List.length_replicate,
      List.length_cons, Int.natCast_succ, Int.add_mul, Int.one_mul]
    omega

/-- Where no choice is made among the dice, they are all there is to call for. -/
theorem Played.calls_of_keepAll (keepAll : command.keeping = none) {number : Int}
    {rounds : List (Outcome × List Remark)} {calls : List Call}
    (played : Played source command number rounds calls) :
    calls = List.replicate (rounds.length * command.times.toNat) (.die 1 command.faces) := by
  induction played with
  | done =>
    rw [List.length_nil, Nat.zero_mul]
    rfl
  | @round number dice kept rounds calls throws rest hypothesis =>
    have none : keepCalls command dice = [] := by
      rw [keepCalls, keepAll]
      rfl
    rw [roundCalls, none, List.append_nil, hypothesis, List.replicate_append_replicate,
      List.length_cons, Nat.succ_mul, Nat.add_comm]

end Command

end DiceTower
