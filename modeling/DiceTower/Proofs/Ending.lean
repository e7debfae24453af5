import DiceTower.Evaluation

/-!
# How computations end

`Play.Ends play bad good` says of all runs of a computation at once that each ends in a failure
that is `bad` or in an answer that is `good` together with the calls made for it. With no bad
failure it says that every run answers; with no good answer, that every run fails. There is one
rule for each way a computation is put together, and none of them opens a run.
-/

namespace DiceTower

namespace Source

variable {σ : Type} (source : Source σ)

/-- Some state of the source rolls the number. -/
def CanRoll (low high rolled : Int) : Prop :=
  ∃ state, (source.die state low high).1 = rolled

/-- Some state of the source gives the answer to a sample: what it draws, or its refusal. -/
def CanSample (population : List Int) (size : Int) (answer : Option (List Int)) : Prop :=
  ∃ state, (source.sample state population size).1 = answer

end Source

/-- Whether a phrase can be written depends on its integers alone. -/
theorem Phrase.discard_written (phrase : Phrase) :
    discard phrase.written =
      if phrase.legible then .ok () else .error (Failure.numeral .unwritable) := by
  rw [written, write]
  split <;> rfl

namespace Play

variable {σ α β : Type}

/-- Every run ends in a bad failure, or in an answer that is good with the calls made. -/
structure Ends (play : Play σ α) (bad : Failure → Prop) (good : α → List Call → Prop) : Prop where
  failed : ∀ state failure, (play.run state).result = .error failure → bad failure
  answered : ∀ state answer, (play.run state).result = .ok answer →
    good answer (play.run state).calls

variable {bad : Failure → Prop} {good : α → List Call → Prop} {goodAfter : β → List Call → Prop}
  {play : Play σ α}

/-- Where no failure is bad there is an answer. -/
theorem Ends.exists_answer (ends : Ends play (fun _ => False) good) (state : σ) :
    ∃ answer, (play.run state).result = .ok answer ∧ good answer (play.run state).calls := by
  cases result : (play.run state).result with
  | error failure => exact (ends.failed state failure result).elim
  | ok answer => exact ⟨answer, rfl, ends.answered state answer result⟩

theorem Ends.mono {better : α → List Call → Prop} (ends : Ends play bad better)
    (enough : ∀ answer calls, better answer calls → good answer calls) : Ends play bad good where
  failed := ends.failed
  answered state answer result := enough _ _ (ends.answered state answer result)

theorem Ends.pure {answer : α} (holds : good answer []) :
    Ends (Pure.pure answer : Play σ α) bad good where
  failed _ _ result := by cases result
  answered _ _ result := by
    cases result
    exact holds

theorem Ends.die {source : Source σ} {low high : Int} {good : Int → List Call → Prop}
    (holds : ∀ rolled, source.CanRoll low high rolled → good rolled [.die low high]) :
    Ends (die source low high) bad good where
  failed _ _ result := by cases result
  answered state _ result := by
    cases result
    exact holds _ ⟨state, rfl⟩

theorem run_sample (source : Source σ) (population : List Int) (size : Int) (state : σ) :
    (sample source population size).run state =
      ⟨(source.sample state population size).1.elim (.error .unfitSample) .ok,
        (source.sample state population size).2, [.sample population size], []⟩ := by
  rw [run, sample]
  split
  · rename_i drawn
    rw [drawn]
    rfl
  · rename_i nothing
    rw [nothing]
    rfl

theorem Ends.sample {source : Source σ} {population : List Int} {size : Int}
    {good : List Int → List Call → Prop}
    (refused : source.CanSample population size none → bad .unfitSample)
    (drew : ∀ drawn, source.CanSample population size (some drawn) →
      good drawn [.sample population size]) :
    Ends (sample source population size) bad good := by
  constructor
  · intro state failure result
    rw [run_sample] at result
    cases answer : (source.sample state population size).1 with
    | none =>
      rw [answer] at result
      cases result
      exact refused ⟨state, answer⟩
    | some drawn =>
      rw [answer] at result
      cases result
  · intro state drawn result
    rw [run_sample] at result ⊢
    cases answer : (source.sample state population size).1 with
    | none =>
      rw [answer] at result
      cases result
    | some other =>
      rw [answer] at result
      cases result
      exact drew _ ⟨state, answer⟩

/-- One computation after another makes the calls of both. -/
theorem Ends.bind {next : α → Play σ β} (first : Ends play bad good)
    (after : ∀ answer calls, good answer calls →
      Ends (next answer) bad fun last later => goodAfter last (calls ++ later)) :
    Ends (play >>= next) bad goodAfter := by
  constructor
  · intro state failure result
    cases before : (play.run state).result with
    | error fault =>
      rw [run_bind_of_error before] at result
      cases result
      exact first.failed state _ before
    | ok answer =>
      rw [run_bind_of_ok before] at result
      exact (after answer _ (first.answered state answer before)).failed _ _ result
  · intro state last result
    cases before : (play.run state).result with
    | error fault =>
      rw [run_bind_of_error before] at result
      cases result
    | ok answer =>
      rw [run_bind_of_ok before] at result ⊢
      exact (after answer _ (first.answered state answer before)).answered _ _ result

/-- Reports an event before going on, which makes no call. -/
theorem Ends.report_bind {event : Event} {next : Unit → Play σ β}
    (after : Ends (next ()) bad goodAfter) : Ends (report event >>= next) bad goodAfter := by
  have reported : ∀ state, ((report event : Play σ Unit).run state).result = .ok () := fun _ => rfl
  constructor
  · intro state failure result
    rw [run_bind_of_ok (reported state)] at result
    exact after.failed _ _ result
  · intro state answer result
    rw [run_bind_of_ok (reported state)] at result ⊢
    exact after.answered _ _ result

theorem Ends.map {f : α → β} (ends : Ends play bad fun answer calls => goodAfter (f answer) calls) :
    Ends (f <$> play) bad goodAfter := by
  rw [map_eq_pure_bind]
  refine ends.bind fun answer calls holds => Ends.pure ?_
  rw [List.append_nil]
  exact holds

/-! ## Lines -/

theorem written_of_legible {phrase : Phrase} (legible : phrase.legible = true) :
    (ofExcept (discard phrase.written) : Play σ Unit) = pure () := by
  rw [Phrase.discard_written, if_pos legible]
  rfl

theorem say_of_legible {remark : Remark} (legible : remark.phrase.legible = true) :
    (say remark : Play σ Unit) = pure () :=
  written_of_legible legible

theorem written_of_illegible {phrase : Phrase} (illegible : phrase.legible = false) :
    (ofExcept (discard phrase.written) : Play σ Unit) =
      ofExcept (.error (.numeral .unwritable)) := by
  rw [Phrase.discard_written, if_neg (by rw [illegible]; decide)]

theorem say_of_illegible {remark : Remark} (illegible : remark.phrase.legible = false) :
    (say remark : Play σ Unit) = ofExcept (.error (.numeral .unwritable)) :=
  written_of_illegible illegible

/-- Words a phrase before going on; it may turn out that there is an integer in it too long. What
comes after is only done if there is none. -/
theorem Ends.written_bind_of_legible {phrase : Phrase} {next : Unit → Play σ β}
    (illegible : phrase.legible = false → bad (.numeral .unwritable))
    (after : phrase.legible = true → Ends (next ()) bad goodAfter) :
    Ends (ofExcept (discard phrase.written) >>= next) bad goodAfter := by
  cases legible : phrase.legible with
  | true =>
    rw [written_of_legible legible, pure_bind]
    exact after legible
  | false =>
    rw [written_of_illegible legible]
    constructor
    · rintro _ _ ⟨⟩
      exact illegible legible
    · rintro _ _ ⟨⟩

theorem Ends.written_bind {phrase : Phrase} {next : Unit → Play σ β}
    (illegible : phrase.legible = false → bad (.numeral .unwritable))
    (after : Ends (next ()) bad goodAfter) :
    Ends (ofExcept (discard phrase.written) >>= next) bad goodAfter :=
  written_bind_of_legible illegible fun _ => after

theorem Ends.say_bind_of_legible {remark : Remark} {next : Unit → Play σ β}
    (illegible : remark.phrase.legible = false → bad (.numeral .unwritable))
    (after : remark.phrase.legible = true → Ends (next ()) bad goodAfter) :
    Ends (say remark >>= next) bad goodAfter :=
  written_bind_of_legible illegible after

theorem Ends.say_bind {remark : Remark} {next : Unit → Play σ β}
    (illegible : remark.phrase.legible = false → bad (.numeral .unwritable))
    (after : Ends (next ()) bad goodAfter) : Ends (say remark >>= next) bad goodAfter :=
  written_bind illegible after

/-- Words some lines before going on. -/
theorem Ends.sayAll_bind {remarks : List Remark} {next : Unit → Play σ β}
    (illegible : ∀ remark ∈ remarks, remark.phrase.legible = false →
      bad (.numeral .unwritable)) (after : Ends (next ()) bad goodAfter) :
    Ends (sayAll remarks >>= next) bad goodAfter := by
  rw [Play.sayAll]
  induction remarks with
  | nil => exact after
  | cons remark remarks hypothesis =>
    change Ends ((say remark >>= fun _ => remarks.forM say) >>= next) bad goodAfter
    rw [bind_assoc]
    refine Ends.say_bind (illegible remark List.mem_cons_self) ?_
    exact hypothesis fun other member => illegible other (List.mem_cons_of_mem _ member)

end Play

end DiceTower
