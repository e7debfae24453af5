import DiceTower.Proofs.JournalLines
import Mathlib.Data.List.Nodup

/-!
# Lines that no field can forge

The names in a line may come up several times on its way: fields of an entry and fields of its
context may be named alike, and may be named as the level, the time or the message are. The line is
put together in two ways, one for each origin of an entry, and both end alike (`Journal.finish`).
What they put together before that end is said by `Journal.Entry.Gathers`; the end writes the level
and the time over it, and leaves the rest.

Some names are not for data. A field of one of them asks for particulars of the program, or holds
the arguments of a message (`Journal.IsParticular`).

The main statement is `Journal.Entry.line_unforged`.
-/

namespace DiceTower

namespace Record

variable {α : Type} {record : Record α}

/-! ## Distinct names -/

/-- No name comes up twice. -/
def Distinct (record : Record α) : Prop :=
  (record.map Prod.fst).Nodup

instance : Decidable record.Distinct :=
  inferInstanceAs (Decidable (record.map Prod.fst).Nodup)

theorem map_fst_put (record : Record α) (name : String) (value : α) :
    (put record name value).map Prod.fst =
      if name ∈ record.map Prod.fst then record.map Prod.fst
      else record.map Prod.fst ++ [name] := by
  induction record with
  | nil => rfl
  | cons first rest hypothesis =>
    rcases first with ⟨key, held⟩
    by_cases here : key = name
    · rw [put, if_pos here, List.map_cons, List.map_cons, if_pos (here ▸ List.mem_cons_self)]
    · have later : name ∈ key :: rest.map Prod.fst ↔ name ∈ rest.map Prod.fst := by
        simp [Ne.symm here]
      rw [put, if_neg here, List.map_cons, List.map_cons, hypothesis]
      simp only [later]
      split
      · rfl
      · rfl

theorem Distinct.put (distinct : Distinct record) (name : String) (value : α) :
    Distinct (put record name value) := by
  rw [Distinct, map_fst_put]
  split
  · exact distinct
  · rename_i absent
    exact List.nodup_append_comm.mp (List.nodup_cons.mpr ⟨absent, distinct⟩)

theorem Distinct.erase (distinct : Distinct record) (name : String) :
    Distinct (erase record name) :=
  (List.filter_sublist.map Prod.fst).nodup distinct

theorem Distinct.putAllNew (distinct : Distinct record) (others : Record α) :
    Distinct (putAllNew record others) := by
  induction others generalizing record with
  | nil => exact distinct
  | cons first rest hypothesis =>
    refine hypothesis ?_
    dsimp only
    unfold putNew
    split
    · exact distinct
    · exact distinct.put _ _

theorem Distinct.foldl_erase (distinct : Distinct record) (names : List String) :
    Distinct (names.foldl Record.erase record) := by
  induction names generalizing record with
  | nil => exact distinct
  | cons name names hypothesis => exact hypothesis (distinct.erase name)

end Record

namespace Journal

/-! ## Names that are not for data -/

/-- A field of the name asks for particulars of the program or is kept for the journal. -/
def IsParticular (name : String) : Prop :=
  name ∈ ["exc_info", "stack_info", argumentsName, "stack", "exception"] ∨
    name.toList.head? = some '_'

instance : DecidablePred IsParticular := fun _ => inferInstanceAs (Decidable (_ ∨ _))

theorem isParticular_of_mem_hiddenNames {name : String} (hidden : name ∈ hiddenNames) :
    IsParticular name := by
  have all : ∀ name ∈ hiddenNames, IsParticular name := by decide
  exact all name hidden

/-! ## The end of a line -/

theorem get?_withoutHidden (fields : Record Value) (name : String) :
    (withoutHidden fields).get? name = if name ∈ hiddenNames then none else fields.get? name :=
  Record.get?_foldl_erase hiddenNames fields name

/-- Level and time are written over what is there, and bound fields where nothing is. -/
theorem get?_finish (level : Level) (time : String) (bound fields : Record Value)
    (name : String) :
    (finish level time bound fields).get? name =
      if name ∈ hiddenNames then none
      else if name = "level" then some (.text level.name)
      else if name = "timestamp" then some (.text time)
      else (fields.get? name).or (bound.get? name) := by
  rw [finish, get?_withoutHidden, Record.get?_putAllNew, Record.get?_put, Record.get?_put]
  split
  · rfl
  · split
    · rfl
    · split
      · rfl
      · rfl

theorem distinct_finish {level : Level} {time : String} {bound fields : Record Value}
    (distinct : fields.Distinct) : (finish level time bound fields).Distinct :=
  (((distinct.put _ _).put _ _).putAllNew bound).foldl_erase hiddenNames

namespace Entry

variable {entry : Entry} {threshold : Nat} {time : String} {fields line : Record Value}

/-! ## What is put together before the end -/

/-- The fields of its own that an entry can bring into a line: a plain one has none. -/
def ownFields (entry : Entry) : Record Value :=
  match entry.origin with
  | .structured _ => entry.own
  | .plain _ => []

/-- No field asks for particulars of the program. -/
def Unparticular (entry : Entry) : Prop :=
  ∀ field ∈ entry.own ++ entry.bound, ¬ IsParticular field.1

instance : Decidable entry.Unparticular :=
  inferInstanceAs (Decidable (∀ field ∈ entry.own ++ entry.bound, ¬ IsParticular field.1))

theorem Unparticular.get?_eq_none {name : String} (unparticular : entry.Unparticular)
    (particular : IsParticular name) :
    entry.own.get? name = none ∧ entry.bound.get? name = none := by
  have absent : ∀ field ∈ entry.own ++ entry.bound, field.1 ≠ name := by
    intro field held same
    rw [← same] at particular
    exact unparticular field held particular
  rw [List.forall_mem_append] at absent
  exact ⟨Record.get?_eq_none absent.1, Record.get?_eq_none absent.2⟩

theorem Unparticular.get?_ownFields_eq_none {name : String} (unparticular : entry.Unparticular)
    (particular : IsParticular name) : entry.ownFields.get? name = none := by
  rw [ownFields]
  split
  · exact (unparticular.get?_eq_none particular).1
  · rfl

/-- The fields hold the message of an entry and, the level apart, what the entry and its context
have for other names. -/
structure Gathers (entry : Entry) (fields : Record Value) : Prop where
  event : ∃ message, Template.fill entry.message entry.arguments = .ok message ∧
    fields.get? "event" = some (.text message)
  others : ∀ name, name ≠ "event" → name ≠ "level" → name ∉ hiddenNames →
    (fields.get? name).or (entry.bound.get? name) =
      (entry.ownFields.get? name).or (entry.bound.get? name)
  distinct : entry.ownFields.Distinct → fields.Distinct

theorem Unparticular.get?_argumentsName (unparticular : entry.Unparticular) :
    (Record.putAllNew entry.own entry.bound).get? argumentsName = none := by
  have particular : IsParticular argumentsName := by decide
  obtain ⟨own, bound⟩ := unparticular.get?_eq_none particular
  rw [Record.get?_putAllNew, own, bound]
  rfl

theorem exists_gathers_of_structuredLine (unparticular : entry.Unparticular)
    {severity : Severity} (origin : entry.origin = .structured severity)
    (made : entry.structuredLine time = .ok line) :
    ∃ fields, line = finish entry.level time entry.bound fields ∧ entry.Gathers fields := by
  have own : entry.ownFields = entry.own := by rw [ownFields, origin]
  rw [structuredLine] at made
  split at made
  · cases made
  · dsimp only at made
    rw [wording_of_absent unparticular.get?_argumentsName,
      withoutArguments_of_absent unparticular.get?_argumentsName] at made
    cases worded : Template.fill entry.message entry.arguments with
    | error fault =>
      rw [worded] at made
      cases made
    | ok message =>
      rw [worded] at made
      refine ⟨_, (Except.ok.inj made).symm, ⟨message, worded, ?_⟩, ?_, ?_⟩
      · rw [get?_withoutHidden, Record.get?_put, Record.get?_put]
        rfl
      · intro name notEvent notLevel shown
        rw [get?_withoutHidden, if_neg shown, Record.get?_put, if_neg notLevel, Record.get?_put,
          if_neg notEvent, Record.get?_erase, Record.get?_putAllNew, own]
        -- The one name that is erased here is a name no field has.
        split
        · rename_i arguments
          rw [arguments, (unparticular.get?_eq_none (by decide)).1]
        · cases entry.own.get? name with
          | none => exact Option.or_self
          | some value => rfl
      · intro distinct
        rw [own] at distinct
        exact ((((distinct.putAllNew _).erase _).put _ _).put _ _).foldl_erase hiddenNames

theorem exists_gathers_of_plainLine? {level : Level} (origin : entry.origin = .plain level)
    (made : entry.plainLine? time = some line) :
    ∃ fields, line = finish entry.level time entry.bound fields ∧ entry.Gathers fields := by
  have own : entry.ownFields = [] := by rw [ownFields, origin]
  rw [plainLine?, plainWording] at made
  cases worded : Template.fill entry.message entry.arguments with
  | error fault =>
    rw [worded] at made
    cases made
  | ok message =>
    rw [worded] at made
    refine ⟨_, (Option.some.inj made).symm, ⟨message, worded, ?_⟩, ?_, ?_⟩
    · rw [Record.get?_putAllNew, Record.get?_put]
      rfl
    · intro name notEvent notLevel shown
      rw [Record.get?_putAllNew, Record.get?_put, if_neg notLevel, Record.get?,
        if_neg (Ne.symm notEvent), own]
      exact Option.or_self
    · intro _
      have message_distinct : Record.Distinct [("event", Value.text message)] :=
        List.nodup_singleton _
      exact (message_distinct.put _ _).putAllNew _

theorem exists_gathers_of_line? (unparticular : entry.Unparticular)
    (written : entry.line? threshold time = .ok (some line)) :
    ∃ fields, line = finish entry.level time entry.bound fields ∧ entry.Gathers fields := by
  rw [line?_eq_map_made?, Pipeline.map_eq_ok_iff] at written
  obtain ⟨made, whole, kept⟩ := written
  obtain ⟨rfl, -⟩ := Option.filter_eq_some_iff.mp kept
  rw [made?] at whole
  cases origin : entry.origin with
  | structured severity =>
    rw [origin] at whole
    obtain ⟨other, made, same⟩ := Pipeline.map_eq_ok_iff.mp whole
    rw [Option.some.inj same] at made
    exact exists_gathers_of_structuredLine unparticular origin made
  | plain level =>
    rw [origin] at whole
    exact exists_gathers_of_plainLine? origin (Except.ok.inj whole)

/-- A line that is written has the severity and the time and the worded message of its entry under
their names, whatever fields are named so. Any other name has the value that the entry itself gives
it, and the one of its context only if the entry gives none; and no name comes up twice. -/
theorem line_unforged (unparticular : entry.Unparticular)
    (written : entry.line? threshold time = .ok (some line)) :
    line.get? "level" = some (.text entry.level.name) ∧
      line.get? "timestamp" = some (.text time) ∧
      (∃ message, Template.fill entry.message entry.arguments = .ok message ∧
        line.get? "event" = some (.text message)) ∧
      (∀ name, name ≠ "level" → name ≠ "timestamp" → name ≠ "event" →
        line.get? name = (entry.ownFields.get? name).or (entry.bound.get? name)) ∧
      (entry.ownFields.Distinct → line.Distinct) := by
  obtain ⟨fields, rfl, gathers⟩ := exists_gathers_of_line? unparticular written
  obtain ⟨message, worded, event⟩ := gathers.event
  refine ⟨?_, ?_, ⟨message, worded, ?_⟩, ?_, fun distinct => ?_⟩
  · rw [get?_finish]
    rfl
  · rw [get?_finish]
    rfl
  · rw [get?_finish, event]
    rfl
  · intro name notLevel notTimestamp notEvent
    rw [get?_finish, if_neg notLevel, if_neg notTimestamp]
    split
    · rename_i hidden
      have particular := isParticular_of_mem_hiddenNames hidden
      rw [unparticular.get?_ownFields_eq_none particular,
        (unparticular.get?_eq_none particular).2]
      rfl
    · rename_i shown
      exact gathers.others name notEvent notLevel shown
  · exact distinct_finish (gathers.distinct distinct)

/-- Fields of the entry and of its context that would pass for the level, the time, the message, and
for each other. -/
theorem line_unforged_of_like_names :
    let entry : Entry :=
      { origin := .structured .warning, message := "rolled %d", arguments := [.int 7],
        own := [("level", .text "debug"), ("table", .int 2), ("timestamp", .text "never")],
        bound := [("event", .text "folded"), ("table", .int 9), ("level", .null), ("seat", .int 4)] }
    ∃ line, entry.line? 30 "noon" = .ok (some line) ∧
      line.get? "level" = some (.text "warning") ∧ line.get? "timestamp" = some (.text "noon") ∧
      line.get? "event" = some (.text "rolled 7") ∧ line.get? "table" = some (.int 2) ∧
      line.get? "seat" = some (.int 4) ∧ line.Distinct := by
  intro entry
  have unparticular : entry.Unparticular := by decide
  have writes : (entry.line? 30 "noon").map Option.isSome = .ok true := by decide +kernel
  obtain ⟨written?, written, isSome⟩ := Pipeline.map_eq_ok_iff.mp writes
  obtain ⟨line, rfl⟩ := Option.isSome_iff_exists.mp isSome
  obtain ⟨level, timestamp, ⟨message, worded, event⟩, others, distinct⟩ :=
    line_unforged unparticular written
  have wording : Template.fill entry.message entry.arguments = .ok "rolled 7" := by
    decide +kernel
  rw [Except.ok.inj (worded.symm.trans wording)] at event
  exact ⟨line, written, level, timestamp, event,
    others "table" (by decide) (by decide) (by decide),
    others "seat" (by decide) (by decide) (by decide), distinct (by decide)⟩

end Entry

end Journal

end DiceTower
