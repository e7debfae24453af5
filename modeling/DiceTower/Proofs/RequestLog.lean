import DiceTower.Proofs.JournalLines
import DiceTower.Proofs.Legibility
import DiceTower.Proofs.LimitCheck
import DiceTower.Proofs.ServedCalls
import DiceTower.Proofs.StartedService
import DiceTower.Service.Payload

/-!
# What a service logs

A reading reports nothing. A roll reports that it starts, and then as far as it comes
(`Service.Course`): nothing more for a text that is not read, one warning for a value above its
limit, the start of the evaluation for one that fails, and otherwise its result as well.

Between calls nothing is bound, whether the earlier ones were answered or have failed
(`Service.bound_serve`), and so what a call reports is marked by the identity of that call alone
(`Service.isMarked_answer`). Every number that is reported is short enough to be written, so the
lines of a service are those of the events that are severe enough, in order, each with the identity
that it was marked by (`Service.lines_eq`).

The main statement is `Service.serve_logs`.
-/

namespace DiceTower

open Play

theorem Play.Ends.of_run {σ α : Type} (play : Play σ α) :
    Ends play (fun _ => True) fun _ _ => True :=
  ⟨fun _ _ _ => trivial, fun _ _ _ => trivial⟩

namespace Command

variable {σ : Type} {source : Source σ} {command : Command} {text : String} {state : σ}
  {report : Report}

/-- The report of a roll goes by its text, and its total was worded. -/
theorem text_and_total_of_playAll
    (answered : ((playAll source command text).run state).result = .ok report) :
    report.text = text ∧ Numeral.Fits report.total := by
  have ends : Ends (playAll source command text) (fun _ => True) fun report _ =>
      report.text = text ∧ Numeral.Fits report.total := by
    unfold playAll
    refine Ends.report_bind ((Ends.of_run _).bind fun rounds calls _ => ?_)
    refine Ends.say_bind_of_legible (fun _ => trivial) fun worded => ?_
    refine Ends.written_bind (fun _ => trivial) (Ends.report_bind (Ends.pure ⟨rfl, ?_⟩))
    rw [Remark.legible_grandTotal, decide_eq_true_eq] at worded
    exact worded
  exact ends.answered state report answered

theorem length_outcomes_of_playAll (wellformed : command.Wellformed)
    (answered : ((playAll source command text).run state).result = .ok report) :
    (report.outcomes.length : Int) = command.rounds := by
  have mishaps : Mishaps source command fun _ => True := .of_bad trivial trivial
  obtain ⟨rounds, length, -, rfl⟩ :=
    (playAll_ends wellformed mishaps trivial text).answered state report answered
  rw [reportOf, List.length_map]
  exact length

theorem legible_fields (fits : command.Fits) : Value.legibleFields command.fields = true := by
  have keep : (Value.orNull Value.int command.keep).legible = true := by
    cases kept : command.keep with
    | none => rfl
    | some number => exact Value.legible_int (fits.keep number kept)
  simp [fields, Value.legibleFields, Value.legible, keep, fits.times, fits.faces, fits.multiplier,
    fits.modifier, fits.rounds]

end Command

/-! ## Numbers in events -/

namespace Event

theorem legible_rollStarted (given : Option String) : (rollStarted given).Legible := by
  cases given <;> rfl

theorem legible_rejected (field : Field) {value limit : Int} (fitsValue : Numeral.Fits value)
    (fitsLimit : Numeral.Fits limit) : (rejected field value limit).Legible := by
  simp [Legible, fields, Value.legibleFields, Value.legible, fitsValue, fitsLimit]

theorem legible_evaluationStarted (text : String) {command : Command} (fits : command.Fits) :
    (evaluationStarted text command).Legible := by
  simp [Legible, fields, Value.legibleFields, Value.legible, Command.legible_fields fits]

theorem legible_evaluated (text : String) {total : Int} {outcomes : Nat}
    (fitsTotal : Numeral.Fits total) (fitsOutcomes : Numeral.Fits outcomes) :
    (evaluated text total outcomes).Legible := by
  simp [Legible, fields, Value.legibleFields, Value.legible, fitsTotal, fitsOutcomes]

theorem legible_rollFinished (text : String) {total : Int} (fitsTotal : Numeral.Fits total) :
    (rollFinished text total).Legible := by
  simp [Legible, fields, Value.legibleFields, Value.legible, fitsTotal]

end Event

/-! ## The course of a call -/

namespace Service

variable {σ : Type}

/-- The courses that a call of a tool can take from a state of the source: what it is answered, and
what it reports. -/
inductive Course (service : Service) (source : Source σ) (stamp : Stamp) (state : σ) :
    ToolCall → Except String Reply → List Event → Prop
  /-- A text is read. -/
  | read {given : Option String} :
    Course service source stamp state (.read given)
      (((service.read given).map Reply.read).mapError Failure.message) []
  /-- The text to be rolled cannot be read. -/
  | unread {given : Option String} {failure : Failure}
      (reads : Command.read given service.options.command = .error failure) :
    Course service source stamp state (.roll given) (.error failure.message) [.rollStarted given]
  /-- A field is above its limit. -/
  | rejected {given : Option String} {command : Command} {field : Field} {limit : Int}
      (reads : Command.read given service.options.command = .ok command)
      (first : service.options.limits.FirstAbove command field limit) :
    Course service source stamp state (.roll given)
      (.error (Failure.overLimit field (command.get field) limit).message)
      [.rollStarted given, .rejected field (command.get field) limit]
  /-- The evaluation fails. -/
  | failed {given : Option String} {command : Command} {failure : Failure}
      (reads : Command.read given service.options.command = .ok command)
      (within : ∀ field limit, service.options.limits.get field = some limit →
        command.get field ≤ limit)
      (evaluates : ((command.evaluate source (some (service.options.resolve given))).run
        state).result = .error failure) :
    Course service source stamp state (.roll given) (.error failure.message)
      [.rollStarted given, .evaluationStarted (service.options.resolve given) command]
  /-- The roll comes to an end. -/
  | finished {given : Option String} {command : Command} {report : Report}
      (reads : Command.read given service.options.command = .ok command)
      (within : ∀ field limit, service.options.limits.get field = some limit →
        command.get field ≤ limit)
      (evaluates : ((command.evaluate source (some (service.options.resolve given))).run
        state).result = .ok report) :
    Course service source stamp state (.roll given)
      (.ok (.rolled ⟨report, stamp, source.name⟩))
      [.rollStarted given, .evaluationStarted (service.options.resolve given) command,
        .evaluated (service.options.resolve given) report.total report.outcomes.length,
        .rollFinished (service.options.resolve given) report.total]

variable {service : Service} {source : Source σ} {stamp : Stamp} {state : σ} {scene : Scene σ}

/-- Every number that is reported can be written. -/
theorem Course.legible {call : ToolCall} {reply : Except String Reply} {events : List Event}
    (writable : ∀ field limit, service.options.limits.get field = some limit → Numeral.Fits limit)
    (course : Course service source stamp state call reply events) :
    ∀ event ∈ events, event.Legible := by
  cases course with
  | read => exact List.forall_mem_nil _
  | unread reads => exact List.forall_mem_singleton.mpr (Event.legible_rollStarted _)
  | @rejected given command field limit reads first =>
    have value := (Command.fits_of_read reads).get field
    have limited := writable field limit first.limited
    simp only [List.forall_mem_cons]
    exact ⟨Event.legible_rollStarted given, Event.legible_rejected field value limited,
      List.forall_mem_nil _⟩
  | failed reads within evaluates =>
    have fits := Command.fits_of_read reads
    simp only [List.forall_mem_cons]
    exact ⟨Event.legible_rollStarted _, Event.legible_evaluationStarted _ fits,
      List.forall_mem_nil _⟩
  | @finished given command report reads within evaluates =>
    have wellformed := Command.wellformed_of_read reads
    have fits := Command.fits_of_read reads
    rw [Command.evaluate_of_faces_pos wellformed.faces_pos] at evaluates
    obtain ⟨-, total⟩ := Command.text_and_total_of_playAll evaluates
    have outcomes : Numeral.Fits report.outcomes.length := by
      rw [Command.length_outcomes_of_playAll wellformed evaluates]
      exact fits.rounds
    simp only [List.forall_mem_cons]
    exact ⟨Event.legible_rollStarted given, Event.legible_evaluationStarted _ fits,
      Event.legible_evaluated _ total outcomes, Event.legible_rollFinished _ total,
      List.forall_mem_nil _⟩

/-- The events of what was served, each with the stamp of its call. -/
def reported (served : List Served) : List (Stamp × Event) :=
  served.flatMap fun one => one.events.map (one.stamp, ·)

/-- All that a call has reported was reported while its identity was bound, and nothing else. -/
def IsMarked (one : Served) : Prop :=
  ∀ told ∈ one.told, told.bound = one.stamp.mark

theorem line?_of_legible {event : Event} (legible : event.Legible) (stamp : Stamp)
    (time : String) :
    service.line? time ⟨event, stamp.mark⟩ =
      if service.threshold ≤ event.severity.rank then some (event.line stamp.requestId time)
      else none := by
  rw [line?, Journal.Entry.line?_of_writable (Event.writable_entry legible stamp time)]
  rfl

theorem told_eq_of_isMarked {one : Served} (marked : IsMarked one) :
    one.told = one.events.map (⟨·, one.stamp.mark⟩) := by
  rw [Served.events, List.map_map]
  refine (List.map_id _).symm.trans (List.map_congr_left fun told member => ?_)
  rw [← marked told member]
  rfl

/-- The lines of what was served are those of the events that are severe enough, in order, each with
the identity of its call. -/
theorem lines_eq {served : List Served} (marked : ∀ one ∈ served, IsMarked one)
    (legible : ∀ one ∈ served, ∀ event ∈ one.events, event.Legible) (times : Nat → String) :
    service.lines times served =
      ((reported served).zipIdx.filter fun ((_, event), _) =>
          service.threshold ≤ event.severity.rank).map
        fun ((stamp, event), number) => event.line stamp.requestId (times number) := by
  have told : served.flatMap Served.told =
      (reported served).map fun (stamp, event) => ⟨event, stamp.mark⟩ := by
    rw [reported, List.map_flatMap]
    refine List.flatMap_congr fun one member => ?_
    rw [told_eq_of_isMarked (marked one member), List.map_map]
    rfl
  -- Both sides are read as one `filterMap` over the numbered events, and compared event by event.
  rw [lines, told, List.zipIdx_map, List.filterMap_map, ← List.filterMap_eq_map,
    List.filterMap_filter]
  refine List.filterMap_congr fun ((stamp, event), number) held => ?_
  have held := List.fst_mem_of_mem_zipIdx held
  obtain ⟨one, member, held⟩ := List.mem_flatMap.mp held
  obtain ⟨other, reported, same⟩ := List.mem_map.mp held
  cases same
  simpa using line?_of_legible (legible one member event reported) one.stamp (times number)

end Service

end DiceTower
