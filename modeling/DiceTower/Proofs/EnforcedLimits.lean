import DiceTower.Proofs.ConfiguredLimits
import DiceTower.Proofs.EntryPoints
import Mathlib

/-!
# Configured limits are enforced

The wording of a refusal determines the field, the value and the limit it tells of
(`Failure.refusal_inj`), so an answer of the service shows which limit was exceeded. A call to roll
is answered with such a wording just if the limits refuse its command (`Service.refused_iff`). To
spell out the text that stands in for a blank one makes no difference to any reply
(`Service.replies_serve_spoken`).

The main statement is `Service.serve_enforces_limits`.
-/

namespace DiceTower

open DiceTower.Text

/-! ## The wording of a refusal -/

theorem Field.name_injective {field other : Field} (same : field.name = other.name) :
    field = other := by
  have named := Field.ofName?_name field
  rw [same, Field.ofName?_name] at named
  exact (Option.some.inj named).symm

namespace Failure

/-- The wording of a refusal. -/
def refusal (field : Field) (value limit : Int) : String :=
  "[THROTTLE_EXCEEDED] " ++ field.name ++ " (" ++ toString value ++
    ") exceeds the limit of " ++ toString limit ++ " that has been imposed"

theorem message_overLimit (field : Field) (value limit : Int) :
    (overLimit field value limit).message = refusal field value limit := by
  rw [← String.toList_inj]
  unfold refusal
  simp only [message, phrase, Phrase.toList_text_cons, Phrase.toList_text_nil, Piece.text,
    String.toList_append, List.append_assoc, List.append_nil]

theorem toList_refusal (field : Field) (value limit : Int) :
    (refusal field value limit).toList =
      "[THROTTLE_EXCEEDED] ".toList ++ (field.name.toList ++ ' ' :: '(' ::
        ((toString value).toList ++ ')' :: (" exceeds the limit of ".toList ++
          ((toString limit).toList ++ " that has been imposed".toList)))) := by
  have opening : " (".toList = [' ', '('] := rfl
  have closing : ") exceeds the limit of ".toList = ')' :: " exceeds the limit of ".toList := rfl
  unfold refusal
  simp only [String.toList_append, opening, closing, List.append_assoc, List.cons_append,
    List.nil_append]

/-- A refusal tells of one field, one value and one limit. -/
theorem refusal_inj {field other : Field} {value limit otherValue otherLimit : Int}
    (same : refusal field value limit = refusal other otherValue otherLimit) :
    field = other ∧ value = otherValue ∧ limit = otherLimit := by
  have texts := congrArg String.toList same
  rw [toList_refusal, toList_refusal] at texts
  have named : ∀ field : Field, ' ' ∉ field.name.toList := by
    intro field
    cases field <;> decide
  have closed : ∀ n : Int, ')' ∉ (toString n).toList :=
    Numeral.not_mem_toString (by decide) (by decide)
  have written : ∀ {n m : Int}, (toString n).toList = (toString m).toList → n = m :=
    fun same => Int.repr_injective (String.toList_inj.mp same)
  rcases append_cons_inj (named field) (named other) (List.append_cancel_left texts) with
    ⟨sameName, rest⟩
  rcases append_cons_inj (closed value) (closed otherValue) (List.cons.inj rest).2 with
    ⟨sameValue, rest⟩
  have sameLimit := List.append_cancel_right (List.append_cancel_left rest)
  exact ⟨Field.name_injective (String.toList_inj.mp sameName), written sameValue,
    written sameLimit⟩

/-- Nothing that a roll can fail for is worded as a refusal. -/
theorem message_ne_refusal {cause : Failure}
    (other : cause = numeral .unwritable ∨ cause = unfitSample) (field : Field)
    (value limit : Int) : cause.message ≠ refusal field value limit := by
  intro same
  have opening : cause.message.toList.head? = some '[' := by
    rw [same, toList_refusal]
    rfl
  rcases other with rfl | rfl
  · exact absurd opening (by decide +kernel)
  · exact absurd opening (by decide +kernel)

end Failure

/-! ## The stand-in of a blank text -/

theorem Command.textOr_textOr (given : Option String) (fallback : String) :
    textOr (some (textOr given fallback)) fallback = textOr given fallback := by
  cases blank : isBlank given with
  | true =>
    have fallen : textOr given fallback = fallback := if_pos blank
    rw [fallen]
    simp [textOr]
  | false =>
    cases given with
    | none => cases blank
    | some text => rw [textOr_of_not_blank blank, textOr_of_not_blank blank]

namespace Options

variable {σ : Type} {options : Options} {given : Option String}

/-- A command that is not empty stands in for a blank text itself. -/
theorem resolve_eq (nonempty : options.command ≠ "") (given : Option String) :
    options.resolve given = Command.textOr given options.command := by
  have kept : orUsual options.command = options.command :=
    if_neg (mt String.isEmpty_iff.mp nonempty)
  rw [resolve, kept]

/-- A text is executed as the text that it goes by. -/
theorem execute_resolve (options : Options) (source : Source σ) (given : Option String) :
    options.execute source (some (options.resolve given)) = options.execute source given := by
  have resolved : options.resolve (some (options.resolve given)) = options.resolve given :=
    Command.textOr_textOr given _
  unfold execute
  dsimp only
  rw [resolved]

end Options

theorem Places.Configures.command_ne_empty {places : Places} {options : Options}
    (configures : places.Configures options) : options.command ≠ "" := by
  have standsIn := (configures.standsIn options.command).mpr rfl
  generalize options.command = command at standsIn
  cases standsIn with
  | configured decides nonempty => exact nonempty
  | empty decides => decide
  | usual decides => decide

/-! ## Answers of the service -/

/-- The call with a blank text to roll spelled out. -/
def ToolCall.spoken (standIn : String) : ToolCall → ToolCall
  | roll text => roll (some (Command.textOr text standIn))
  | read text => read text

namespace Service

variable {σ : Type} {places : Places} {service : Service}

theorem serve_cons (source : Source σ) (stamps : Nat → Stamp) (number : Nat) (call : ToolCall)
    (rest : List ToolCall) (scene : Scene σ) :
    (service.serve source stamps number (call :: rest) scene).1 =
      (service.answer source (stamps number) call scene).1 ::
        (service.serve source stamps (number + 1) rest
          (service.answer source (stamps number) call scene).2).1 :=
  rfl

theorem answer_spoken (nonempty : service.options.command ≠ "") (source : Source σ)
    (stamp : Stamp) (call : ToolCall) (scene : Scene σ) :
    (service.answer source stamp (call.spoken service.options.command) scene).1.reply =
        (service.answer source stamp call scene).1.reply ∧
      (service.answer source stamp (call.spoken service.options.command) scene).2 =
        (service.answer source stamp call scene).2 := by
  cases call with
  | read text => exact ⟨rfl, rfl⟩
  | roll text =>
    have executed : service.options.execute source (some (Command.textOr text
        service.options.command)) = service.options.execute source text := by
      rw [← Options.resolve_eq nonempty, Options.execute_resolve]
    rw [ToolCall.spoken, reply_roll, reply_roll, scene_roll, scene_roll, executed]
    exact ⟨rfl, rfl⟩

/-- A roll is answered with a refusal just if the limits refuse its command. -/
theorem refused_iff (configures : places.Configures service.options) {source : Source σ}
    {stamp : Stamp} {scene : Scene σ} {given : Option String} {command : Command}
    (reads : Command.read given service.options.command = .ok command) {field : Field}
    {value limit : Int} :
    (service.answer source stamp (.roll given) scene).1.reply =
        .error (Failure.refusal field value limit) ↔
      service.options.limits.FirstAbove command field limit ∧ value = command.get field := by
  have writable : ∀ field limit, service.options.limits.get field = some limit →
      Numeral.Fits limit :=
    fun field limit held => ((configures.imposes field limit).mp held).fits
  rw [reply_roll, Pipeline.mapError_eq_error_iff]
  simp only [Pipeline.map_eq_error_iff]
  constructor
  · intro refused
    rcases refused with ⟨cause, failed, worded⟩
    cases exceeded : service.options.limits.firstExceeded? command with
    | some excess =>
      have first := Limits.firstExceeded?_eq_some_iff.mp exceeded
      rw [Options.run_execute_of_firstAbove writable reads first] at failed
      rw [← Except.error.inj failed, Failure.message_overLimit] at worded
      rcases Failure.refusal_inj worded with ⟨rfl, rfl, rfl⟩
      exact ⟨first, rfl⟩
    | none =>
      have wellformed := Command.wellformed_of_read reads
      rcases Options.execute_of_within source reads exceeded with ⟨executed, rolled⟩
      rw [executed, rolled] at failed
      exact (Failure.message_ne_refusal (Command.failure_of_playAll wellformed failed)
        field value limit worded).elim
  · intro above
    rcases above with ⟨first, rfl⟩
    refine ⟨.overLimit field (command.get field) limit, ?_, Failure.message_overLimit _ _ _⟩
    rw [Options.run_execute_of_firstAbove writable reads first]

/-- Spelling out the command that stands in for a blank text changes no reply. -/
theorem replies_serve_spoken (nonempty : service.options.command ≠ "") (source : Source σ)
    (stamps : Nat → Stamp) (number : Nat) (calls : List ToolCall) (scene : Scene σ) :
    (service.serve source stamps number
        (calls.map (ToolCall.spoken service.options.command)) scene).1.map Served.reply =
      (service.serve source stamps number calls scene).1.map Served.reply := by
  induction calls generalizing number scene with
  | nil => rfl
  | cons call rest hypothesis =>
    rcases answer_spoken nonempty source (stamps number) call scene with ⟨reply, after⟩
    rw [List.map_cons, serve_cons, serve_cons, List.map_cons, List.map_cons, reply, after,
      hypothesis]

/-- A service that has started from plain places enforces the limits that these impose. Whatever
calls it serves, a roll of a text that can be read is answered with the wording of a refusal just
if the field named there is the first one above its limit. A blank text is answered as the command
that the places put in its stead. -/
theorem serve_enforces_limits (plain : places.Plain) (started : start places = .ok service)
    (source : Source σ) (stamps : Nat → Stamp) (number : Nat) (calls : List ToolCall)
    (scene : Scene σ) :
    places.Configures service.options ∧
      (∀ (place : Nat) (given : Option String) (command : Command),
        calls[place]? = some (.roll given) →
        Command.read given service.options.command = .ok command →
        ∃ served, (service.serve source stamps number calls scene).1[place]? = some served ∧
          ∀ field value limit,
            served.reply = .error (Failure.refusal field value limit) ↔
              service.options.limits.FirstAbove command field limit ∧
                value = command.get field) ∧
      (service.serve source stamps number
          (calls.map (ToolCall.spoken service.options.command)) scene).1.map Served.reply =
        (service.serve source stamps number calls scene).1.map Served.reply := by
  have configures := configures_of_start plain started
  refine ⟨configures, ?_, ?_⟩
  · intro place given command called reads
    rcases service.getElem?_serve source scene stamps calls number called with ⟨before, answered⟩
    refine ⟨_, answered, ?_⟩
    intro field value limit
    exact refused_iff configures reads
  · exact replies_serve_spoken configures.command_ne_empty source stamps number calls scene

/-- The environment outranks its file, and each of them decides a limit; the file also decides what
a blank text is rolled as. -/
theorem serve_enforces_limits_of_environment_and_file :
    let places : Places :=
      { environment := [("PATH", "/bin"), ("dice_Throttle_times", " +0_5.0 ")],
        file := "export DICE_THROTTLE_FACES=1_2 # few\n DICE_THROTTLE_TIMES = 9\n" ++
          "DICE_DEFAULT_COMMAND=\"2d20\"\n" }
    ∃ service : Service,
      (places.Plain ∧ Service.start places = .ok service) ∧
        places.Imposes .times 5 ∧ places.Imposes .faces 12 ∧ places.Imposes .rounds 100 ∧
          ∃ served,
            (service.serve Source.scripted (fun _ => default) 0 [.read none, .roll none]
                ⟨.constant 1 false, []⟩).1[1]? = some served ∧
              served.reply = .error (Failure.refusal .faces 20 12) := by
  intro places
  let options : Options :=
    { command := "2d20", limits := ⟨some 5, some 12, some 100, some 100, some 100⟩ }
  have plain : places.Plain := ⟨rfl, by decide +kernel, by decide +kernel⟩
  have started : Service.start places = .ok ⟨options, 20, .json⟩ := by decide +kernel
  have reads : Command.read none options.command = .ok { times := 2, faces := 20 } := by
    decide +kernel
  rcases serve_enforces_limits plain started Source.scripted (fun _ => default) 0
      [.read none, .roll none] ⟨.constant 1 false, []⟩ with ⟨configures, refuses, -⟩
  rcases refuses 1 none _ rfl reads with ⟨served, answered, refused⟩
  refine ⟨_, ⟨plain, started⟩, (configures.imposes _ _).mp rfl, (configures.imposes _ _).mp rfl,
    (configures.imposes _ _).mp rfl, served, answered, ?_⟩
  exact (refused .faces 20 12).mpr ⟨Limits.firstExceeded?_eq_some_iff.mp (by decide), rfl⟩

end Service

end DiceTower
