import DiceTower.Proofs.BoundFields
import DiceTower.Proofs.RoundTrip
import DiceTower.Service

/-!
# Calls of the service

A roll is answered with the report of its execution, or with the wording of its failure
(`Service.reply_roll`); a reading, with the command and its written form (`Service.reply_read`).
Of several calls each is answered by itself, in whatever scene the earlier ones have left
(`Service.getElem?_serve`). What is bound is the same after each call as it was before
(`Service.get?_bound_serve`).
-/

namespace DiceTower

open Play

namespace Options

variable {σ : Type} (options : Options) (source : Source σ) (given : Option String) (state : σ)

/-- A request is reported before and after its execution, and that is all it adds. -/
theorem run_rollReported :
    (options.rollReported source given).run state =
      let ran := (options.execute source given).run state
      ⟨ran.result, ran.source, ran.calls,
        ⟨.rollStarted given, state⟩ :: (ran.notes ++ ran.result.toOption.elim [] fun report =>
          [⟨.rollFinished report.text report.total, ran.source⟩])⟩ := by
  have started : ((report (.rollStarted given) : Play σ Unit).run state).result = .ok () := rfl
  unfold rollReported
  rw [run_bind_of_ok started]
  dsimp only [run_report]
  cases result : ((options.execute source given).run state).result with
  | error failure =>
    rw [run_bind_of_error result]
    simp [Except.toOption]
  | ok report =>
    have finished : ∀ after : σ,
        (do Play.report (.rollFinished report.text report.total)
            return report : Play σ Report).run after =
          ⟨.ok report, after, [], [⟨.rollFinished report.text report.total, after⟩]⟩ :=
      fun _ => rfl
    rw [run_bind_of_ok result]
    dsimp only
    rw [finished]
    simp [Except.toOption]

end Options

namespace Service

variable {σ : Type} (service : Service) (source : Source σ) (stamp : Stamp)
  (given : Option String) (scene : Scene σ)

/-! ## Single calls -/

/-- A roll is answered from the state of the source, and its events are told with its mark. -/
theorem answer_roll :
    service.answer source stamp (.roll given) scene =
      let ran := (service.options.rollReported source given).run scene.state
      let marked := scene.bound.putAll stamp.mark
      (⟨stamp,
        (ran.result.map fun report => .rolled ⟨report, stamp, source.name⟩).mapError
          Failure.message,
        ran.calls, ran.events.map (⟨·, marked⟩)⟩,
      ⟨ran.source, Record.released stamp.mark scene.bound marked⟩) := by
  unfold answer perform
  dsimp only
  rw [run_map, Options.run_rollText]
  dsimp only
  generalize (service.options.rollReported source given).run scene.state = ran
  rw [Ran.events, List.map_map, List.map_map]
  cases ran.result <;> rfl

/-- A reading makes no calls, reports nothing and leaves the scene as it is. -/
theorem answer_read :
    service.answer source stamp (.read given) scene =
      (⟨stamp, ((service.read given).map Reply.read).mapError Failure.message, [], []⟩, scene) := by
  unfold answer perform
  dsimp only
  rw [run_map, run_ofExcept]
  rfl

theorem reply_roll :
    (service.answer source stamp (.roll given) scene).1.reply =
      (((service.options.execute source given).run scene.state).result.map fun report =>
        .rolled ⟨report, stamp, source.name⟩).mapError Failure.message := by
  rw [answer_roll, Options.run_rollReported]

theorem scene_roll :
    (service.answer source stamp (.roll given) scene).2 =
      ⟨((service.options.execute source given).run scene.state).source,
        Record.released stamp.mark scene.bound (scene.bound.putAll stamp.mark)⟩ := by
  rw [answer_roll, Options.run_rollReported]

theorem reply_read {command : Command}
    (reads : Command.read given service.options.command = .ok command) (fits : command.Fits) :
    (service.answer source stamp (.read given) scene).1.reply =
      .ok (.read ⟨given, command, Phrase.text command.phrase⟩) := by
  have answers : service.read given = .ok ⟨given, command, Phrase.text command.phrase⟩ := by
    unfold read
    rw [reads, Pipeline.bind_of_ok rfl, Command.write_of_fits fits]
    rfl
  rw [answer_read, answers]
  rfl

/-- Each of several calls is answered as if it were the only one, at the state that the calls before
it have left. -/
theorem getElem?_serve_take (stamps : Nat → Stamp) (calls : List ToolCall) (number : Nat)
    {place : Nat} {call : ToolCall} (called : calls[place]? = some call) :
    (service.serve source stamps number calls scene).1[place]? =
      some (service.answer source (stamps (number + place)) call
        (service.serve source stamps number (calls.take place) scene).2).1 := by
  induction calls generalizing number scene place with
  | nil => cases called
  | cons first rest hypothesis =>
    cases place with
    | zero =>
      cases called
      rfl
    | succ place =>
      have answered := hypothesis (service.answer source (stamps number) first scene).2 (number + 1)
        called
      rw [Nat.succ_add_eq_add_succ] at answered
      exact answered

theorem getElem?_serve (stamps : Nat → Stamp) (calls : List ToolCall) (number : Nat) {place : Nat}
    {call : ToolCall} (called : calls[place]? = some call) :
    ∃ before, (service.serve source stamps number calls scene).1[place]? =
      some (service.answer source (stamps (number + place)) call before).1 :=
  ⟨_, getElem?_serve_take service source scene stamps calls number called⟩

end Service

end DiceTower
