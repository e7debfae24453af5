import DiceTower.Execution
import DiceTower.Proofs.Ending

/-!
# The steps of an execution

A text is read, the limits are checked, and the command is rolled. A command passes the check if no
field is above its limit, and then nothing at all has happened; otherwise the check fails without a
call on the source. So an execution either fails before its first call or is the roll of the
command.
-/

namespace DiceTower

open Play

/-! ## The check of the limits -/

namespace Limits

variable {σ : Type} {limits : Limits} {command : Command}

theorem exceeded?_eq_none_iff {field : Field} :
    limits.exceeded? command field = none ↔
      ∀ limit, limits.get field = some limit → command.get field ≤ limit := by
  rw [exceeded?, Option.filter_eq_none_iff]
  constructor
  · intro none limit held
    have notAbove := none limit held
    rw [decide_eq_true_eq] at notAbove
    omega
  · intro within limit held above
    rw [decide_eq_true_eq] at above
    have := within limit held
    omega

theorem firstExceeded?_eq_none_iff :
    limits.firstExceeded? command = none ↔
      ∀ field limit, limits.get field = some limit → command.get field ≤ limit := by
  rw [firstExceeded?, List.findSome?_eq_none_iff]
  constructor
  · intro none field
    exact exceeded?_eq_none_iff.mp (Option.map_eq_none_iff.mp (none field field.mem_all))
  · intro within field _
    exact Option.map_eq_none_iff.mpr (exceeded?_eq_none_iff.mpr (within field))

theorem check_of_within (within : limits.firstExceeded? command = none) :
    limits.check command = (pure () : Play σ Unit) := by
  rw [check, within]

theorem run_check_of_exceeded {state : σ} {field : Field} {limit : Int}
    (exceeded : limits.firstExceeded? command = some (field, limit)) :
    (limits.check command).run state =
      ⟨.error (Failure.overLimit field (command.get field) limit).worded, state, [],
        [⟨.rejected field (command.get field) limit, state⟩]⟩ := by
  rw [check, exceeded]
  rfl

theorem get_uniform (limit : Int) (field : Field) : (uniform limit).get field = some limit := by
  cases field <;> rfl

end Limits

/-! ## The text a command goes by -/

namespace Command

theorem textOr_of_not_blank {text : String} (solid : isBlank (some text) = false)
    (fallback : String) : textOr (some text) fallback = text := by
  simp [textOr, solid]

/-- A text that is not blank is read itself, whatever the fallback. -/
theorem read_of_not_blank {text : String} (solid : isBlank (some text) = false)
    (fallback : String) :
    read (some text) fallback = (readText text.toList).mapError Failure.numeral := by
  rw [read, textOr_of_not_blank solid]

/-- The text a command goes by is read as the command text is. -/
theorem read_resolve (options : Options) (given : Option String) :
    read (some (options.resolve given)) options.command = read given options.command := by
  cases blank : isBlank given with
  | true =>
    have resolved : options.resolve given = Options.orUsual options.command := by
      simp [Options.resolve, textOr, blank]
    have fallen : textOr given options.command = options.command := by
      simp [textOr, blank]
    rw [resolved, read, read, fallen]
    unfold Options.orUsual
    split
    · rename_i empty
      -- The usual command denotes what the empty text leaves open.
      rw [String.isEmpty_iff.mp empty]
      rfl
    · simp [textOr]
  | false =>
    cases given with
    | none => cases blank
    | some text =>
      rw [Options.resolve, textOr_of_not_blank blank]

theorem evaluate_of_faces_pos {σ : Type} {command : Command} {source : Source σ}
    (faces_pos : 1 ≤ command.faces) (text : String) :
    command.evaluate source (some text) = playAll source command text := by
  have someFaces : ¬ command.faces < 1 := by omega
  rw [evaluate, if_neg someFaces]
  exact pure_bind text _

end Command

/-! ## Executions -/

namespace Options

variable {σ : Type} {options : Options} {source : Source σ} {given : Option String}

/-- A text that is read as a command is executed as that command, if the limits allow it. -/
theorem execute_of_read {command : Command}
    (reads : Command.read given options.command = .ok command) :
    options.execute source given =
      (do options.limits.check command
          command.evaluate source (some (options.resolve given))) := by
  unfold execute
  dsimp only
  rw [Command.read_resolve, reads]
  exact pure_bind command _

theorem run_execute_of_unread {state : σ} {failure : Failure}
    (unread : Command.read given options.command = .error failure) :
    (options.execute source given).run state = ⟨.error failure, state, [], []⟩ := by
  unfold execute
  dsimp only
  rw [Command.read_resolve, unread]
  rfl

theorem run_execute_of_exceeded {state : σ} {command : Command} {field : Field} {limit : Int}
    (reads : Command.read given options.command = .ok command)
    (exceeded : options.limits.firstExceeded? command = some (field, limit)) :
    (options.execute source given).run state =
      ⟨.error (Failure.overLimit field (command.get field) limit).worded, state, [],
        [⟨.rejected field (command.get field) limit, state⟩]⟩ := by
  rw [execute_of_read reads,
    run_bind_of_error (congrArg Ran.result (Limits.run_check_of_exceeded exceeded)),
    Limits.run_check_of_exceeded exceeded]

end Options

end DiceTower
