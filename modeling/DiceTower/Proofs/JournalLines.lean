import DiceTower.Execution
import DiceTower.Journal.Events
import DiceTower.Proofs.Pipeline

/-!
# Entries and their lines

A threshold decides whether the line of an entry is written, and nothing else about it
(`Entry.line?_of_writable`). An entry without arguments and with fields of its own names is put into
a line as it is, if every integer in it is short enough (`Entry.Ordinary.writable`).

The entry of an event is of that kind. `Event.line` is its line: the fields of the event, then the
identity of the request, the name and the severity of the event, and the time.
-/

namespace DiceTower

/-! ## Legible records -/

namespace Value

theorem legible_int {n : Int} (fits : Numeral.Fits n) : (int n).legible = true := by
  rw [legible]
  exact decide_eq_true fits

theorem legibleFields_iff {fields : Record Value} :
    legibleFields fields = true ↔ ∀ field ∈ fields, field.2.legible = true := by
  induction fields with
  | nil => exact ⟨fun _ => List.forall_mem_nil _, fun _ => rfl⟩
  | cons field rest hypothesis =>
    obtain ⟨name, value⟩ := field
    rw [legibleFields, Bool.and_eq_true, hypothesis, List.forall_mem_cons]

end Value

namespace Record

variable {record others : Record Value} {name : String} {value : Value}

theorem mem_put {field : String × Value} (held : field ∈ Record.put record name value) :
    field ∈ record ∨ field = (name, value) := by
  induction record with
  | nil => exact .inr (List.mem_singleton.mp held)
  | cons first rest hypothesis =>
    obtain ⟨key, before⟩ := first
    rw [put] at held
    split at held
    · rename_i same
      rcases List.mem_cons.mp held with rfl | held
      · exact .inr (by rw [same])
      · exact .inl (List.mem_cons_of_mem _ held)
    · rcases List.mem_cons.mp held with rfl | held
      · exact .inl List.mem_cons_self
      · exact (hypothesis held).imp_left (List.mem_cons_of_mem _)

theorem mem_putAllNew {field : String × Value} (held : field ∈ putAllNew record others) :
    field ∈ record ∨ field ∈ others := by
  induction others generalizing record with
  | nil => exact .inl held
  | cons first rest hypothesis =>
    rcases hypothesis held with held | held
    · dsimp only at held
      unfold putNew at held
      split at held
      · exact .inl held
      · rcases mem_put held with held | rfl
        · exact .inl held
        · exact .inr List.mem_cons_self
    · exact .inr (List.mem_cons_of_mem _ held)

theorem get?_eq_none {record : Record Value} (absent : ∀ field ∈ record, field.1 ≠ name) :
    get? record name = none := by
  induction record with
  | nil => rfl
  | cons first rest hypothesis =>
    obtain ⟨first_absent, rest_absent⟩ := List.forall_mem_cons.mp absent
    rw [get?, if_neg first_absent, hypothesis rest_absent]

end Record

namespace Journal

theorem mem_of_mem_withoutHidden {field : String × Value} {fields : Record Value}
    (held : field ∈ withoutHidden fields) : field ∈ fields := by
  unfold withoutHidden at held
  generalize hiddenNames = names at held
  induction names generalizing fields with
  | nil => exact held
  | cons name names hypothesis => exact (List.mem_filter.mp (hypothesis held)).1

theorem mem_finish {level : Level} {time : String} {bound fields : Record Value}
    {field : String × Value} (held : field ∈ finish level time bound fields) :
    field ∈ fields ++ bound ∨ field.2 = .text time ∨ field.2 = .text level.name := by
  rw [List.mem_append]
  rcases Record.mem_putAllNew (mem_of_mem_withoutHidden held) with held | held
  · rcases Record.mem_put held with held | rfl
    · rcases Record.mem_put held with held | rfl
      · exact .inl (.inl held)
      · exact .inr (.inl rfl)
    · exact .inr (.inr rfl)
  · exact .inl (.inr held)

namespace Entry

variable {entry : Entry} {threshold : Nat} {time : String} {line : Record Value}

/-! ## The threshold -/

/-- The line that is put together for an entry, if there is one. -/
def made? (entry : Entry) (time : String) : Except Refusal (Option (Record Value)) :=
  match entry.origin with
  | .structured _ => (entry.structuredLine time).map some
  | .plain _ => .ok (entry.plainLine? time)

theorem line?_eq_map_made? (entry : Entry) (threshold : Nat) (time : String) :
    entry.line? threshold time = (entry.made? time).map
      (Option.filter fun line => entry.reaches threshold && Value.legibleFields line) := by
  unfold line? made?
  cases entry.origin with
  | structured severity => cases entry.structuredLine time <;> rfl
  | plain level => rfl

/-- The entry has a line that can be written, whatever its severity. -/
def Writable (entry : Entry) (time : String) (line : Record Value) : Prop :=
  entry.line? 0 time = .ok (some line)

theorem writable_iff : entry.Writable time line ↔
    entry.made? time = .ok (some line) ∧ Value.legibleFields line = true := by
  rw [Writable, line?_eq_map_made?, Pipeline.map_eq_ok_iff]
  constructor
  · rintro ⟨made, whole, kept⟩
    obtain ⟨rfl, legible⟩ := Option.filter_eq_some_iff.mp kept
    exact ⟨whole, (Bool.and_eq_true _ _ ▸ legible).2⟩
  · rintro ⟨whole, legible⟩
    refine ⟨some line, whole, Option.filter_eq_some_iff.mpr ⟨rfl, ?_⟩⟩
    rw [legible, Bool.and_true]
    exact decide_eq_true (Nat.zero_le _)

/-- An entry that has a line is written if it is severe enough, and not otherwise. -/
theorem line?_of_writable (writable : entry.Writable time line) (threshold : Nat) :
    entry.line? threshold time =
      .ok (if threshold ≤ entry.level.rank then some line else none) := by
  obtain ⟨whole, legible⟩ := writable_iff.mp writable
  rw [line?_eq_map_made?, whole]
  by_cases severe : threshold ≤ entry.level.rank
  · simp [Except.map, legible, reaches, severe]
  · simp [Except.map, reaches, severe]

/-- Where no field holds arguments the message is worded with those of the call. -/
theorem wording_of_absent {fields : Record Value} (absent : fields.get? argumentsName = none) :
    entry.wording fields = Template.fill entry.message entry.arguments := by
  rw [wording, absent]
  cases entry.arguments with
  | nil => rfl
  | cons first rest => rfl

theorem withoutArguments_of_absent {fields : Record Value}
    (absent : fields.get? argumentsName = none) :
    entry.withoutArguments fields = fields.erase argumentsName := by
  rw [withoutArguments, absent]
  cases entry.arguments with
  | nil => rfl
  | cons first rest => rfl

/-! ## Ordinary entries -/

/-- Nothing has to be put into the message of an entry, its fields have names of their own, and
every integer in them is short enough. -/
structure Ordinary (entry : Entry) : Prop where
  noArguments : entry.arguments = []
  noTakenName : entry.takenName? = none
  noOtherArguments : ∀ field ∈ entry.own ++ entry.bound, field.1 ≠ argumentsName
  legible : ∀ field ∈ entry.own ++ entry.bound, field.2.legible = true

/-- No field of an ordinary entry holds arguments, so its message is worded as it is. -/
theorem Ordinary.structuredLine_eq (ordinary : entry.Ordinary) (time : String) :
    entry.structuredLine time = .ok (finish entry.level time entry.bound (withoutHidden
      (Record.put (Record.put ((Record.putAllNew entry.own entry.bound).erase argumentsName)
        "event" (.text entry.message)) "level" (.text entry.level.name)))) := by
  have absent : (Record.putAllNew entry.own entry.bound).get? argumentsName = none :=
    Record.get?_eq_none fun field held => ordinary.noOtherArguments field
      (List.mem_append.mpr (Record.mem_putAllNew held))
  have worded : entry.wording (Record.putAllNew entry.own entry.bound) = .ok entry.message := by
    rw [wording_of_absent absent, ordinary.noArguments]
    rfl
  rw [structuredLine, ordinary.noTakenName]
  dsimp only
  rw [worded, withoutArguments_of_absent absent]
  rfl

/-- What stands in the line of an ordinary entry are its fields and some texts. -/
theorem Ordinary.exists_made? (ordinary : entry.Ordinary) (time : String) :
    ∃ line, entry.made? time = .ok (some line) ∧ ∀ field ∈ line, field.2.legible = true := by
  have finished : ∀ fields : Record Value, (∀ field ∈ fields, field.2.legible = true) →
      ∀ field ∈ finish entry.level time entry.bound fields, field.2.legible = true := by
    intro fields legible field held
    rcases mem_finish held with held | same | same
    · rcases List.mem_append.mp held with held | held
      · exact legible field held
      · exact ordinary.legible field (List.mem_append_right _ held)
    · rw [same]
      rfl
    · rw [same]
      rfl
  unfold made?
  cases entry.origin with
  | structured severity =>
    dsimp only
    rw [ordinary.structuredLine_eq]
    refine ⟨_, rfl, finished _ fun field held => ?_⟩
    rcases Record.mem_put (mem_of_mem_withoutHidden held) with held | rfl
    · rcases Record.mem_put held with held | rfl
      · have held := (List.mem_filter.mp held).1
        exact ordinary.legible field (List.mem_append.mpr (Record.mem_putAllNew held))
      · rfl
    · rfl
  | plain level =>
    dsimp only
    rw [plainLine?, plainWording, ordinary.noArguments]
    refine ⟨_, rfl, finished _ fun field held => ?_⟩
    rcases Record.mem_putAllNew held with held | held
    · rcases Record.mem_put held with held | rfl
      · rw [List.mem_singleton.mp held]
        rfl
      · rfl
    · exact ordinary.legible field (List.mem_append_right _ held)

theorem Ordinary.writable (ordinary : entry.Ordinary) (time : String) :
    ∃ line, entry.Writable time line := by
  obtain ⟨line, made, legible⟩ := ordinary.exists_made? time
  exact ⟨line, writable_iff.mpr ⟨made, Value.legibleFields_iff.mpr legible⟩⟩

end Entry

end Journal

/-! ## Events -/

namespace Event

/-- The line of an event at a time in a request. -/
def line (event : Event) (requestId time : String) : Record Value :=
  event.fields ++
    [("request_id", .text requestId), ("event", .text event.name),
      ("level", .text event.severity.name), ("timestamp", .text time)]

/-- Every integer that an event tells is short enough. -/
def Legible (event : Event) : Prop :=
  Value.legibleFields event.fields = true

/-- No field of an event has a name that the journal uses. -/
theorem ordinary_entry {event : Event} (legible : event.Legible) (stamp : Stamp) :
    (event.entry stamp.mark).Ordinary where
  noArguments := rfl
  noTakenName := by cases event <;> rfl
  noOtherArguments := by
    cases event <;> simp [entry, fields, Stamp.mark, Journal.argumentsName]
  legible := by
    intro field held
    rcases List.mem_append.mp held with held | held
    · exact Value.legibleFields_iff.mp legible field held
    · rw [List.mem_singleton.mp held]
      rfl

theorem made?_entry {event : Event} (legible : event.Legible) (stamp : Stamp) (time : String) :
    (event.entry stamp.mark).made? time = .ok (some (event.line stamp.requestId time)) := by
  have made : (event.entry stamp.mark).made? time =
      ((event.entry stamp.mark).structuredLine time).map some := rfl
  rw [made, (ordinary_entry legible stamp).structuredLine_eq]
  refine congrArg (fun line => Except.ok (some line)) ?_
  cases event <;>
    simp [line, entry, fields, Stamp.mark, Journal.Entry.level, Journal.Origin.level,
      Journal.Level.name, Journal.argumentsName, Journal.finish, Journal.withoutHidden,
      Journal.hiddenNames, Record.erase, Record.put, Record.putAllNew, Record.putNew, Record.get?]

theorem writable_entry {event : Event} (legible : event.Legible) (stamp : Stamp) (time : String) :
    (event.entry stamp.mark).Writable time (event.line stamp.requestId time) := by
  refine Journal.Entry.writable_iff.mpr ⟨made?_entry legible stamp time, ?_⟩
  rw [Value.legibleFields_iff]
  intro field held
  rcases List.mem_append.mp held with held | held
  · exact Value.legibleFields_iff.mp legible field held
  · simp only [List.mem_cons, List.not_mem_nil, or_false] at held
    rcases held with rfl | rfl | rfl | rfl <;> rfl

end Event

end DiceTower
