import DiceTower.Proofs.ExecutionSteps
import DiceTower.Proofs.Readable
import DiceTower.Proofs.Rounds

/-!
# The roll of a command

A roll that answers has played its rounds and tells what they come to (`Command.playAll_ends`).
After the rounds nothing is called for, and all that can still go wrong is an integer that is too
long to be written.

A text that reads as a command within the limits is executed as the roll of that command
(`Options.execute_of_within`). `Options.Course` lists the courses that an execution can take; only
this one leads to an answer (`Options.exists_command_of_answer`).
-/

namespace DiceTower

open Play

namespace Command

variable {σ : Type} {source : Source σ} {command : Command} {bad : Failure → Prop}

/-- What some rounds of a command that goes by a text come to. -/
def reportOf (command : Command) (text : String) (rounds : List (Outcome × List Remark)) :
    Report where
  text := text
  command := command
  outcomes := rounds.map Prod.fst
  remarks := (rounds.map Prod.snd).flatten ++
    [.grandTotal text (Outcome.grandTotal (rounds.map Prod.fst))]

/-- A roll comes to what its rounds come to, and makes no call but theirs. -/
theorem playAll_ends (wellformed : command.Wellformed) (mishaps : Mishaps source command bad)
    (overgrown : bad (.numeral .unwritable)) (text : String) :
    Ends (playAll source command text) bad fun report calls =>
      ∃ rounds, (rounds.length : Int) = command.rounds ∧
        Played source command 1 rounds calls ∧ report = command.reportOf text rounds := by
  have rounds_pos := wellformed.rounds_pos
  have played := playRounds_ends wellformed.faces_pos mishaps command.rounds.toNat (Int.le_refl 1)
    (by omega)
  unfold playAll
  refine Ends.report_bind ?_
  refine played.bind fun rounds calls ⟨length, rest⟩ => ?_
  refine Ends.say_bind (fun _ => overgrown) (Ends.written_bind (fun _ => overgrown) ?_)
  refine Ends.report_bind ?_
  refine Ends.pure ⟨rounds, by omega, ?_, rfl⟩
  simpa using rest

/-- A roll fails for an integer that is too long or for a sample that the source refuses. -/
theorem failure_of_playAll (wellformed : command.Wellformed) {text : String} {state : σ}
    {failure : Failure}
    (failed : ((playAll source command text).run state).result = .error failure) :
    failure = .numeral .unwritable ∨ failure = .unfitSample := by
  have mishaps : Mishaps source command fun cause =>
      cause = .numeral .unwritable ∨ cause = .unfitSample := .of_bad (.inl rfl) (.inr rfl)
  exact (playAll_ends wellformed mishaps (.inl rfl) text).failed state failure failed

end Command

namespace Options

variable {σ : Type} {options : Options} {source : Source σ} {given : Option String}
  {command : Command}

/-- A text that reads as a command within the limits is executed as its roll. -/
theorem execute_of_within (source : Source σ)
    (reads : Command.read given options.command = .ok command)
    (within : options.limits.firstExceeded? command = none) :
    options.execute source given = command.evaluate source (some (options.resolve given)) ∧
      command.evaluate source (some (options.resolve given)) =
        command.playAll source (options.resolve given) := by
  have wellformed := Command.wellformed_of_read reads
  rw [execute_of_read reads, Limits.check_of_within within, pure_bind]
  exact ⟨rfl, Command.evaluate_of_faces_pos wellformed.faces_pos _⟩

/-- The courses that an execution can take, with what its run leaves behind. -/
inductive Course (options : Options) (source : Source σ) (given : Option String) (state : σ) :
    Ran σ Report → Prop
  /-- The text cannot be read. -/
  | unread {failure : Failure} (reads : Command.read given options.command = .error failure) :
    Course options source given state ⟨.error failure, state, [], []⟩
  /-- A field is above its limit. -/
  | refused {command : Command} {field : Field} {limit : Int}
      (reads : Command.read given options.command = .ok command)
      (exceeded : options.limits.firstExceeded? command = some (field, limit)) :
    Course options source given state
      ⟨.error (Failure.overLimit field (command.get field) limit).worded, state, [],
        [⟨.rejected field (command.get field) limit, state⟩]⟩
  /-- The command is rolled. -/
  | rolled {command : Command} (reads : Command.read given options.command = .ok command)
      (within : options.limits.firstExceeded? command = none) :
    Course options source given state ((command.playAll source (options.resolve given)).run state)

theorem course (options : Options) (source : Source σ) (given : Option String) (state : σ) :
    Course options source given state ((options.execute source given).run state) := by
  cases reads : Command.read given options.command with
  | error failure =>
    rw [run_execute_of_unread reads]
    exact .unread reads
  | ok command =>
    cases exceeded : options.limits.firstExceeded? command with
    | some excess =>
      rw [run_execute_of_exceeded reads exceeded]
      exact .refused reads exceeded
    | none =>
      rcases execute_of_within source reads exceeded with ⟨executed, rolled⟩
      rw [executed, rolled]
      exact .rolled reads exceeded

/-- Only a text that reads as a command within the limits gets an answer. -/
theorem exists_command_of_answer {state : σ} {report : Report}
    (answered : ((options.execute source given).run state).result = .ok report) :
    ∃ command, Command.read given options.command = .ok command ∧
      options.limits.firstExceeded? command = none := by
  have course := options.course source given state
  generalize (options.execute source given).run state = ran at course answered
  cases course with
  | unread reads => cases answered
  | refused reads exceeded => cases answered
  | rolled reads within => exact ⟨_, reads, within⟩

end Options

end DiceTower
