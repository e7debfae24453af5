import DiceTower.Proofs.LimitCheck
import DiceTower.Proofs.Mentions
import DiceTower.Proofs.ServedCalls
import DiceTower.Proofs.Stripping
import DiceTower.Service.Payload
import DiceTower.Table

/-!
# One reading for all entry points

A text is executed, read, checked and served in different places, and two of them put a command in
place of a blank text by rules of their own. They come to the same command: a blank text that is
kept by the one rule reads as the usual command of the other (`Command.readText_of_allBlank`).

The main statement is `Options.entry_points_agree`.
-/

namespace DiceTower

open Play DiceTower.Text

namespace Command

/-! ## Blank texts -/

/-- A blank text leaves every part open, as the usual command does. -/
theorem readText_of_allBlank {text : List Char} (blank : allBlank text = true) :
    readText text = readText usual.toList := by
  rw [readText, strip_of_allBlank blank]
  decide +kernel

/-- Only a blank command of the options is kept in place of a blank text. -/
theorem allBlank_of_isBlank_resolve {options : Options} {given : Option String}
    (blank : isBlank (some (options.resolve given)) = true) :
    allBlank options.command.toList = true := by
  cases solid : isBlank given with
  | false =>
    cases given with
    | none => cases solid
    | some text =>
      rw [Options.resolve, textOr_of_not_blank solid, solid] at blank
      cases blank
  | true =>
    have resolved : options.resolve given = Options.orUsual options.command := by
      simp [Options.resolve, textOr, solid]
    rw [resolved, Options.orUsual] at blank
    split at blank
    · rename_i empty
      rw [String.isEmpty_iff.mp empty]
      rfl
    · exact blank

/-- The text that a command goes by stands for the command wherever it is read. -/
theorem read_resolve_usual (options : Options) (given : Option String) :
    read (some (options.resolve given)) usual = read given options.command := by
  rw [← read_resolve]
  cases solid : isBlank (some (options.resolve given)) with
  | false => rw [read, read, textOr_of_not_blank solid, textOr_of_not_blank solid]
  | true =>
    have fallen : ∀ fallback, textOr (some (options.resolve given)) fallback = fallback := by
      intro fallback
      simp [textOr, solid]
    rw [read, read, fallen, fallen, readText_of_allBlank (allBlank_of_isBlank_resolve solid)]

end Command

/-- A failure to read, as against one to write or to roll. -/
def Failure.LiesInReading (failure : Failure) : Prop :=
  ∃ count, failure = numeral (.unreadable count)

theorem Failure.not_liesInReading_worded (field : Field) (value limit : Int) :
    ¬ (overLimit field value limit).worded.LiesInReading := by
  rintro ⟨count, same⟩
  unfold worded at same
  split at same
  · cases same
  · cases same

namespace Options

variable {σ : Type} (options : Options) (source : Source σ) (given : Option String) (state : σ)

/-- An execution reads, checks and rolls, and reads as the roller does. -/
theorem execute_eq :
    options.execute source given = (do
      let command ← ofExcept (options.read given)
      options.limits.check command
      command.evaluate source (some (options.resolve given))) := by
  unfold execute read
  dsimp only
  rw [Command.read_resolve]

theorem run_perform_execute :
    (options.perform source (.execute given)).run state =
      let ran := (options.execute source given).run state
      ⟨ran.result.map .report, ran.source, ran.calls, ran.notes⟩ := by
  unfold perform
  dsimp only
  rw [run_map]

theorem run_perform_read :
    (options.perform source (.read given)).run state =
      ⟨(options.read given).map .command, state, [], []⟩ := by
  unfold perform
  dsimp only
  rw [run_map, run_ofExcept]

theorem run_perform_check (command : Command) (limits : Option Limits) :
    (options.perform source (.check command limits)).run state =
      let ran := ((limits.getD options.limits).check command : Play σ Unit).run state
      ⟨ran.result.map fun _ => .passed, ran.source, ran.calls, ran.notes⟩ := by
  unfold perform
  dsimp only
  rw [← run_map, map_eq_pure_bind]

/-! ## Failures and answers -/

variable {options source given state}

/-- An execution fails to read just what the roller fails to read. -/
theorem read_eq_error_iff {failure : Failure} :
    options.read given = .error failure ↔
      ((options.execute source given).run state).result = .error failure ∧
        failure.LiesInReading := by
  constructor
  · intro unread
    rw [run_execute_of_unread unread]
    exact ⟨rfl, Command.unreadable_of_read unread⟩
  · rintro ⟨failed, inReading⟩
    have course := options.course source given state
    generalize (options.execute source given).run state = ran at course failed
    cases course with
    | unread reads =>
      rw [← Except.error.inj failed]
      exact reads
    | refused reads exceeded =>
      rw [← Except.error.inj failed] at inReading
      exact (Failure.not_liesInReading_worded _ _ _ inReading).elim
    | rolled reads within =>
      have wellformed := Command.wellformed_of_read reads
      rcases inReading with ⟨count, rfl⟩
      rcases Command.failure_of_playAll wellformed failed with unwritable | unfit
      · cases unwritable
      · cases unfit

/-- An execution is refused just as the check refuses the command that its text is read as. -/
theorem check_eq_overLimit_iff {field : Field} {value limit : Int} :
    (∃ command, options.read given = .ok command ∧
        ((options.perform source (.check command none)).run state).result =
          .error (.overLimit field value limit)) ↔
      ((options.execute source given).run state).result =
        .error (.overLimit field value limit) := by
  have course := options.course source given state
  generalize (options.execute source given).run state = ran at course ⊢
  cases course with
  | @unread failure reads =>
    have inReading := Command.unreadable_of_read reads
    constructor
    · rintro ⟨command, read, -⟩
      cases reads.symm.trans read
    · intro refused
      rw [Except.error.inj refused] at inReading
      rcases inReading with ⟨count, same⟩
      cases same
  | refused reads exceeded =>
    simp only [read, reads, Except.ok.injEq, exists_eq_left']
    rw [run_perform_check, Option.getD_none, Limits.run_check_of_exceeded exceeded]
    dsimp only
    rw [Pipeline.map_eq_error_iff]
    simp only [Except.error.injEq]
  | @rolled command reads within =>
    have wellformed := Command.wellformed_of_read reads
    simp only [read, reads, Except.ok.injEq, exists_eq_left']
    rw [run_perform_check, Option.getD_none, Limits.check_of_within within, run_pure]
    constructor
    · intro refused
      cases refused
    · intro refused
      exact (Command.playAll_ne_overLimit wellformed _ state _ _ _ refused).elim

/-- The command of a report is the one that its text is read as. -/
theorem read_of_answer {report : Report}
    (answered : ((options.execute source given).run state).result = .ok report) :
    options.read given = .ok report.command ∧ report.text = options.resolve given := by
  have course := options.course source given state
  generalize (options.execute source given).run state = ran at course answered
  cases course with
  | unread reads => cases answered
  | refused reads exceeded => cases answered
  | @rolled command reads within =>
    have wellformed := Command.wellformed_of_read reads
    have mishaps : Command.Mishaps source command fun _ => True := .of_bad trivial trivial
    have ends := Command.playAll_ends wellformed mishaps trivial (options.resolve given)
    rcases ends.answered state report answered with ⟨rounds, -, -, rfl⟩
    exact ⟨reads, rfl⟩

/-- Reading, checking and executing a text agree about its command and about what is wrong with
it: an execution is a reading, a check and a roll, and fails as the first of these that fails by
itself. The text that an answer goes by reads as the same command, and so does the text when the
service is called to read it. -/
theorem entry_points_agree (options : Options) (source : Source σ) (given : Option String)
    (state : σ) :
    let executed := (options.perform source (.execute given)).run state
    let read := (options.perform source (.read given)).run state
    options.execute source given = (do
        let command ← ofExcept (options.read given)
        options.limits.check command
        command.evaluate source (some (options.resolve given))) ∧
      (∀ failure, read.result = .error failure ↔
        executed.result = .error failure ∧ failure.LiesInReading) ∧
      (∀ field value limit,
        (∃ command, read.result = .ok (.command command) ∧
            ((options.perform source (.check command none)).run read.source).result =
              .error (.overLimit field value limit)) ↔
          executed.result = .error (.overLimit field value limit)) ∧
      (∀ report, executed.result = .ok (.report report) →
        read.result = .ok (.command report.command) ∧
          Command.read (some report.text) Command.usual = .ok report.command) ∧
      ∀ service : Service, service.options = options → ∀ stamp scene reply,
        (service.answer source stamp (.roll given) scene).1.reply = .ok reply →
        ∃ command reading, options.read given = .ok command ∧
          (∀ other later,
            (service.answer source other (.read given) later).1.reply = .ok reading) ∧
          reply.fields.get? "parsed" = some (.record command.fields) ∧
          reading.fields.get? "parsed" = some (.record command.fields) := by
  intro executed read
  have executes := congrArg Ran.result (run_perform_execute options source given state)
  have reads := congrArg Ran.result (run_perform_read options source given state)
  dsimp only at executes reads
  refine ⟨execute_eq options source given, fun failure => ?_, fun field value limit => ?_,
    fun report answered => ?_, ?_⟩
  · rw [reads, executes, Pipeline.map_eq_error_iff, Pipeline.map_eq_error_iff]
    exact read_eq_error_iff
  · have left := congrArg Ran.source (run_perform_read options source given state)
    dsimp only at left
    rw [executes, Pipeline.map_eq_error_iff, ← check_eq_overLimit_iff, left, reads]
    refine exists_congr fun command => and_congr_left fun _ => ?_
    rw [Pipeline.map_eq_ok_iff]
    constructor
    · rintro ⟨other, read, same⟩
      cases same
      exact read
    · exact fun read => ⟨command, read, rfl⟩
  · rw [executes] at answered
    rcases Pipeline.map_eq_ok_iff.mp answered with ⟨other, executed, same⟩
    cases same
    rcases read_of_answer executed with ⟨read, named⟩
    rw [reads, read, named, Command.read_resolve_usual]
    exact ⟨rfl, read⟩
  · rintro service rfl stamp scene reply replied
    rw [Service.reply_roll] at replied
    rcases Pipeline.map_eq_ok_iff.mp (Pipeline.mapError_eq_ok_iff.mp replied) with
      ⟨report, executed, rfl⟩
    rcases read_of_answer executed with ⟨read, -⟩
    have fits := Command.fits_of_read read
    refine ⟨report.command, .read ⟨given, report.command, Phrase.text report.command.phrase⟩, read,
      fun other later => ?_, rfl, rfl⟩
    exact Service.reply_read service source other given later read fits

end Options

end DiceTower
