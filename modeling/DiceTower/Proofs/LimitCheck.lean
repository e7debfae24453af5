import DiceTower.Journal.Events
import DiceTower.Proofs.Reporting
import DiceTower.Proofs.WholeRoll

/-!
# The check of the limits in an execution

The check stands between reading and rolling. The first field above its limit ends the execution
(`Limits.FirstAbove`), with one warning and without a call on the source; a command within its
limits is rolled, and a roll neither fails for a limit nor warns of one.

The main statement is `Options.execute_checks_limits`.
-/

namespace DiceTower

open Play

/-- A warning that tells of a value above its limit. -/
structure Event.TellsRejection (event : Event) (field : Field) (value limit : Int) : Prop where
  name : event.name = "dice.throttle.rejected"
  severity : event.severity = .warning
  fields : event.fields =
    [("field", .text field.name), ("value", .int value), ("limit", .int limit)]

namespace Limits

/-- The field is above its limit, and no field that is checked earlier is above its own. -/
structure FirstAbove (limits : Limits) (command : Command) (field : Field) (limit : Int) :
    Prop where
  limited : limits.get field = some limit
  above : limit < command.get field
  first : ∃ before after,
    [Field.times, .faces, .modifier, .multiplier, .rounds] = before ++ field :: after ∧
      ∀ earlier ∈ before, ∀ bound, limits.get earlier = some bound → command.get earlier ≤ bound

variable {limits : Limits} {command : Command} {field : Field} {limit : Int}

theorem exceeded?_eq_some_iff :
    limits.exceeded? command field = some limit ↔
      limits.get field = some limit ∧ limit < command.get field := by
  rw [exceeded?, Option.filter_eq_some_iff, decide_eq_true_eq]

theorem firstExceeded?_eq_some_iff :
    limits.firstExceeded? command = some (field, limit) ↔
      limits.FirstAbove command field limit := by
  have checked : ∀ other, (limits.exceeded? command other).map (other, ·) = some (field, limit) ↔
      other = field ∧ limits.get field = some limit ∧ limit < command.get field := by
    intro other
    rw [Option.map_eq_some_iff]
    constructor
    · rintro ⟨bound, exceeded, same⟩
      cases same
      exact ⟨rfl, exceeded?_eq_some_iff.mp exceeded⟩
    · rintro ⟨rfl, excess⟩
      exact ⟨limit, exceeded?_eq_some_iff.mpr excess, rfl⟩
  rw [firstExceeded?, List.findSome?_eq_some_iff]
  constructor
  · rintro ⟨before, other, after, order, found, passed⟩
    obtain ⟨rfl, limited, above⟩ := (checked other).mp found
    exact ⟨limited, above, before, after, order, fun earlier member =>
      exceeded?_eq_none_iff.mp (Option.map_eq_none_iff.mp (passed earlier member))⟩
  · rintro ⟨limited, above, before, after, order, passed⟩
    exact ⟨before, field, after, order, (checked field).mpr ⟨rfl, limited, above⟩,
      fun earlier member =>
        Option.map_eq_none_iff.mpr (exceeded?_eq_none_iff.mpr (passed earlier member))⟩

end Limits

/-- A refusal is worded as it is if its numbers can be written. -/
theorem Failure.worded_overLimit {value limit : Int} (field : Field)
    (fitsValue : Numeral.Fits value) (fitsLimit : Numeral.Fits limit) :
    (overLimit field value limit).worded = overLimit field value limit := by
  have legible : (overLimit field value limit).phrase.legible = true := by
    simp [phrase, Phrase.legible, Piece.legible, fitsValue, fitsLimit]
  rw [worded, if_pos legible]

namespace Command

theorem Fits.get {command : Command} (fits : command.Fits) (field : Field) :
    Numeral.Fits (command.get field) := by
  cases field
  · exact fits.times
  · exact fits.faces
  · exact fits.modifier
  · exact fits.multiplier
  · exact fits.rounds

/-- A roll does not fail for a limit. -/
theorem playAll_ne_overLimit {σ : Type} {source : Source σ} {command : Command}
    (wellformed : command.Wellformed) (text : String) (state : σ) (field : Field)
    (value limit : Int) :
    ((playAll source command text).run state).result ≠ .error (.overLimit field value limit) := by
  intro failed
  rcases failure_of_playAll wellformed failed with unwritable | refused
  · cases unwritable
  · cases refused

end Command

namespace Options

variable {σ : Type} {options : Options} {source : Source σ} {given : Option String}
  {command : Command}

theorem run_execute_of_firstAbove {state : σ} {field : Field} {limit : Int}
    (writable : ∀ field limit, options.limits.get field = some limit → Numeral.Fits limit)
    (reads : Command.read given options.command = .ok command)
    (first : options.limits.FirstAbove command field limit) :
    (options.execute source given).run state =
      ⟨.error (.overLimit field (command.get field) limit), state, [],
        [⟨.rejected field (command.get field) limit, state⟩]⟩ := by
  have fits := Command.fits_of_read reads
  rw [run_execute_of_exceeded reads (Limits.firstExceeded?_eq_some_iff.mpr first),
    Failure.worded_overLimit field (fits.get field) (writable field limit first.limited)]

theorem result_execute_of_within (source : Source σ) (state : σ)
    (reads : Command.read given options.command = .ok command)
    (within : options.limits.firstExceeded? command = none) (field : Field) (value limit : Int) :
    ((options.execute source given).run state).result ≠ .error (.overLimit field value limit) := by
  have wellformed := Command.wellformed_of_read reads
  obtain ⟨executed, rolled⟩ := execute_of_within source reads within
  rw [executed, rolled]
  exact Command.playAll_ne_overLimit wellformed _ state field value limit

/-- A roll starts with the report that it does, and warns of nothing. -/
theorem events_execute_of_within (source : Source σ) (state : σ)
    (reads : Command.read given options.command = .ok command)
    (within : options.limits.firstExceeded? command = none) :
    ((options.execute source given).run state).events.head? =
        some (.evaluationStarted (options.resolve given) command) ∧
      ∀ event ∈ ((options.execute source given).run state).events,
        event.name ≠ "dice.throttle.rejected" := by
  obtain ⟨executed, rolled⟩ := execute_of_within source reads within
  rw [executed, rolled, Command.events_playAll]
  refine ⟨rfl, fun event member => ?_⟩
  rcases List.mem_cons.mp member with rfl | member
  · exact (by decide : "dice.evaluate.start" ≠ "dice.throttle.rejected")
  · cases result : ((command.playAll source (options.resolve given)).run state).result with
    | error failure =>
      rw [result] at member
      cases member
    | ok report =>
      rw [result] at member
      rw [List.mem_singleton.mp member]
      exact (by decide : "dice.evaluate.result" ≠ "dice.throttle.rejected")

/-- A command is refused just if a field is above its limit. The refusal names the first such
field, with its value and its limit; one warning tells of it, and the source is not called. A
command that is not refused is rolled, without any such warning. -/
theorem execute_checks_limits (source : Source σ) (state : σ)
    (writable : ∀ field limit, options.limits.get field = some limit → Numeral.Fits limit)
    (reads : Command.read given options.command = .ok command) :
    let ran := (options.execute source given).run state
    ((∃ field value limit, ran.result = .error (.overLimit field value limit)) ↔
        ∃ field limit, options.limits.get field = some limit ∧ limit < command.get field) ∧
      (∀ field value limit, ran.result = .error (.overLimit field value limit) →
        options.limits.FirstAbove command field limit ∧ value = command.get field ∧
          ran.calls = [] ∧ ∃ event, ran.events = [event] ∧
            event.TellsRejection field value limit) ∧
      ((∀ field limit, options.limits.get field = some limit → command.get field ≤ limit) →
        ran = (command.evaluate source (some (options.resolve given))).run state ∧
          ran.events.head? = some (.evaluationStarted (options.resolve given) command) ∧
          ∀ event ∈ ran.events, event.name ≠ "dice.throttle.rejected") := by
  intro ran
  cases exceeded : options.limits.firstExceeded? command with
  | some excess =>
    obtain ⟨field, limit⟩ := excess
    have first := Limits.firstExceeded?_eq_some_iff.mp exceeded
    have refused : ran = ⟨.error (.overLimit field (command.get field) limit), state, [],
        [⟨.rejected field (command.get field) limit, state⟩]⟩ :=
      run_execute_of_firstAbove writable reads first
    rw [refused]
    refine ⟨⟨fun _ => ⟨field, limit, first.limited, first.above⟩, fun _ => ⟨field, _, limit, rfl⟩⟩,
      ?_, fun within => ?_⟩
    · rintro _ _ _ ⟨⟩
      exact ⟨first, rfl, rfl, _, rfl, rfl, rfl, rfl⟩
    · have above := first.above
      have := within field limit first.limited
      omega
  | none =>
    have within := Limits.firstExceeded?_eq_none_iff.mp exceeded
    have reached : ran = (command.evaluate source (some (options.resolve given))).run state :=
      congrArg (Play.run · state) (execute_of_within source reads exceeded).1
    have passes : ∀ field value limit, ran.result ≠ .error (.overLimit field value limit) :=
      result_execute_of_within source state reads exceeded
    refine ⟨⟨?_, ?_⟩, fun field value limit refused => absurd refused (passes field value limit),
      fun _ => ⟨reached, events_execute_of_within source state reads exceeded⟩⟩
    · rintro ⟨field, value, limit, refused⟩
      exact absurd refused (passes field value limit)
    · rintro ⟨field, limit, limited, above⟩
      have := within field limit limited
      omega

/-- Two fields are above their limits, and the one that is checked first has no limit. -/
theorem execute_checks_limits_of_two_excesses :
    let options : Options :=
      { limits := { faces := some 6, modifier := some 4, rounds := some 2 } }
    let ran := (options.execute Source.scripted (some " 3X(7d6+5) ")).run (.constant 1 false)
    (∀ field limit, options.limits.get field = some limit → Numeral.Fits limit) ∧
      Command.read (some " 3X(7d6+5) ") options.command =
        .ok { times := 7, faces := 6, modifier := 5, rounds := 3 } ∧
      ran.result = .error (.overLimit .modifier 5 4) ∧ ran.calls = [] ∧
      ∃ event, ran.events = [event] ∧ event.TellsRejection .modifier 5 4 := by
  intro options ran
  have writable : ∀ field limit, options.limits.get field = some limit → Numeral.Fits limit := by
    intro field limit limited
    cases field <;> cases limited <;> exact Numeral.fits_of_natAbs_lt (by decide)
  have reads : Command.read (some " 3X(7d6+5) ") options.command =
      .ok { times := 7, faces := 6, modifier := 5, rounds := 3 } := by
    decide +kernel
  have refused : ran.result = .error (.overLimit .modifier 5 4) :=
    congrArg Ran.result (run_execute_of_firstAbove writable reads
      (Limits.firstExceeded?_eq_some_iff.mp (by decide)))
  obtain ⟨-, told, -⟩ := execute_checks_limits Source.scripted (.constant 1 false) writable reads
  obtain ⟨-, -, calls, event⟩ := told _ _ _ refused
  exact ⟨writable, reads, refused, calls, event⟩

end Options

end DiceTower
