import DiceTower.Proofs.EnforcedLimits
import DiceTower.Proofs.LawfulSource
import DiceTower.Proofs.Revisions

/-!
# The names that reports give

A report names the command it rolled by a text. Options that come about from the usual ones, or
from settings, by revisions never have the empty command (`Options.Reachable.command_ne_empty`):
wherever a command is put into options the empty one is passed over. A command of nothing but
blanks is not. It gets into the options, stands in for a blank text there, and is what the report
goes by, although it reads as the usual command.

The main statement is `Options.Reachable.visible_report_iff`.
-/

namespace DiceTower

namespace Command

/-- Some character of a text is not blank. -/
def Visible (text : String) : Prop :=
  ∃ c ∈ text.toList, Text.isBlank c = false

theorem visible_iff {text : String} : Visible text ↔ isBlank (some text) = false := by
  change _ ↔ text.toList.all Text.isBlank = false
  rw [List.all_eq_false]
  simp only [Bool.not_eq_true, Visible]

theorem Visible.ne_empty {text : String} (visible : Visible text) : text ≠ "" := by
  intro empty
  rw [empty, visible_iff] at visible
  cases visible

theorem not_isBlank_iff {given : Option String} :
    isBlank given = false ↔ ∃ text, given = some text ∧ Visible text := by
  cases given with
  | none => simp [isBlank]
  | some text => simp [visible_iff]

end Command

namespace Options

open Command

/-! ## Options that come about -/

/-- The options that come about: the usual ones, those of settings that load, and what revisions
make of them. -/
inductive Reachable : Options → Prop
  | usual : Reachable {}
  | configured {places : Places} {settings : Settings}
      (loaded : Settings.load places = .ok settings) : Reachable settings.options
  | revised {options : Options} (reached : Reachable options) (revision : Revision) :
      Reachable (options.revise revision)

theorem orUsual_ne_empty (text : String) : orUsual text ≠ "" := by
  rw [orUsual]
  split
  · decide
  · rename_i nonempty
    exact mt String.isEmpty_iff.mpr nonempty

theorem Reachable.command_ne_empty {options : Options} (reached : Reachable options) :
    options.command ≠ "" := by
  induction reached with
  | usual => decide
  | configured loaded => exact orUsual_ne_empty _
  | @revised options reached revision hypothesis =>
    rw [command_revise]
    cases gave : revision.givenCommand with
    | none => exact hypothesis
    | some command =>
      rw [Revision.givenCommand, Option.filter_eq_some_iff] at gave
      exact of_decide_eq_true gave.2

/-! ## The text of a report -/

variable {options : Options} {given : Option String}

theorem resolve_of_not_blank (solid : isBlank given = false) :
    given = some (options.resolve given) := by
  cases given with
  | none => cases solid
  | some text => rw [resolve, textOr_of_not_blank solid]

/-- In place of a blank text stands the command of the options, be it blank or not. -/
theorem Reachable.resolve_of_blank (reached : Reachable options) (blank : isBlank given = true) :
    options.resolve given = options.command := by
  rw [resolve_eq reached.command_ne_empty, textOr, if_pos blank]

/-- A report goes by a text with something to see in it if the text that was given has something
to see, or else the command of the options has. Otherwise it goes by blanks, those of the options,
and the usual command has been rolled. -/
theorem Reachable.visible_report_iff {σ : Type} {source : Source σ} {state : σ} {report : Report}
    (reached : Reachable options)
    (answered : ((options.execute source given).run state).result = .ok report) :
    report.text ≠ "" ∧
      (Visible report.text ↔
        (∃ text, given = some text ∧ Visible text) ∨ Visible options.command) ∧
      (¬ Visible report.text → report.text = options.command ∧ report.command = {}) := by
  obtain ⟨reads, text⟩ := read_of_answer answered
  rw [text, ← not_isBlank_iff]
  cases blank : isBlank given with
  | false =>
    obtain ⟨own, same, visible⟩ := not_isBlank_iff.mp blank
    have resolved : options.resolve given = own :=
      (Option.some.inj (same.symm.trans (resolve_of_not_blank blank))).symm
    rw [resolved]
    exact ⟨visible.ne_empty, iff_of_true visible (.inl rfl), fun hidden => (hidden visible).elim⟩
  | true =>
    rw [reached.resolve_of_blank blank]
    refine ⟨reached.command_ne_empty, by simp, fun hidden => ⟨rfl, ?_⟩⟩
    have blankCommand : Text.allBlank options.command.toList = true := by
      rw [visible_iff, Bool.not_eq_false] at hidden
      exact hidden
    have readsUsual : readText Command.usual.toList = .ok {} := by decide +kernel
    rw [Options.read, Command.read, textOr, if_pos blank, readText_of_allBlank blankCommand,
      readsUsual] at reads
    exact (Except.ok.inj reads).symm

/-- Blanks from the environment outlast a revision by the empty command. -/
theorem Reachable.visible_report_iff_of_blank_setting :
    let places : Places := { environment := [("dice_Default_Command", "\t")] }
    ∃ settings report, Settings.load places = .ok settings ∧
      let options := (settings.options.revise { command := some "" }).revise
        { limits := .overlaid [("faces", none)] }
      options.Reachable ∧
        ((options.execute Source.counting (some " ")).run 3).result = .ok report ∧
        ¬ Visible report.text ∧ report.text = "\t" ∧ report.command = {} := by
  intro places
  let settings : Settings := { defaultCommand := "\t" }
  have loaded : Settings.load places = .ok settings := by decide +kernel
  let options := (settings.options.revise { command := some "" }).revise
    { limits := .overlaid [("faces", none)] }
  have reached : options.Reachable := ((Reachable.configured loaded).revised _).revised _
  have answers :
      ((options.execute Source.counting (some " ")).run 3).result.map Report.text = .ok "\t" := by
    decide +kernel
  obtain ⟨report, answered, named⟩ := Pipeline.map_eq_ok_iff.mp answers
  have hidden : ¬ Visible report.text := by
    rw [named, visible_iff]
    decide
  exact ⟨settings, report, loaded, reached, answered, hidden,
    (reached.visible_report_iff answered).2.2 hidden⟩

/-- A report can go by a text with nothing to see in it. -/
theorem Reachable.report_of_blanks :
    ¬ ∀ options : Options, options.Reachable →
      ∀ {σ : Type} (source : Source σ) (state : σ) (given : Option String) (report : Report),
        ((options.execute source given).run state).result = .ok report →
          Visible report.text := by
  intro named
  let places : Places := { environment := [("DICE_DEFAULT_COMMAND", " ")] }
  let settings : Settings := { defaultCommand := " " }
  have loaded : Settings.load places = .ok settings := by decide +kernel
  have answers :
      ((settings.options.execute Source.counting none).run 3).result.map Report.result =
        .ok "The result of   is [ 4 ] = 4" := by
    decide +kernel
  obtain ⟨report, answered, -⟩ := Pipeline.map_eq_ok_iff.mp answers
  have visible := named settings.options (.configured loaded) Source.counting 3 none report answered
  rw [(read_of_answer answered).2, visible_iff] at visible
  exact absurd visible (by decide)

end Options

end DiceTower
