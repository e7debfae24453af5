/-!
# Pipelines that may fail

Answers of type `Except` come about step by step, and the first failure is the answer. These
lemmas go through such a pipeline forwards, when a step is known to answer
(`Pipeline.bind_of_ok`), and backwards, when the whole has answered (`Pipeline.bind_eq_ok_iff`).
`Pipeline.foldlM_invariant` does the latter along a list. A last step may reword the answer or the
failure (`Pipeline.map_eq_ok_iff`, `Pipeline.mapError_eq_error_iff` and their likes).
-/

namespace DiceTower.Pipeline

variable {ε δ α β : Type}

theorem bind_of_ok {first : Except ε α} {answer : α} (answered : first = .ok answer)
    (next : α → Except ε β) : (first >>= next) = next answer := by
  rw [answered]
  rfl

theorem bind_eq_ok_iff {first : Except ε α} {next : α → Except ε β} {answer : β} :
    (first >>= next) = .ok answer ↔ ∃ middle, first = .ok middle ∧ next middle = .ok answer := by
  cases first with
  | error failure =>
    constructor
    · intro answered
      cases answered
    · rintro ⟨middle, answered, -⟩
      cases answered
  | ok middle =>
    constructor
    · intro answered
      exact ⟨middle, rfl, answered⟩
    · rintro ⟨other, same, answered⟩
      cases same
      exact answered

theorem map_eq_ok_iff {first : Except ε α} {f : α → β} {answer : β} :
    first.map f = .ok answer ↔ ∃ before, first = .ok before ∧ f before = answer := by
  cases first with
  | error failure =>
    constructor
    · intro mapped
      cases mapped
    · rintro ⟨before, answered, -⟩
      cases answered
  | ok before =>
    constructor
    · intro mapped
      exact ⟨before, rfl, Except.ok.inj mapped⟩
    · rintro ⟨other, same, mapped⟩
      cases same
      exact congrArg Except.ok mapped

theorem map_eq_error_iff {first : Except ε α} {f : α → β} {failure : ε} :
    first.map f = .error failure ↔ first = .error failure := by
  cases first with
  | error other =>
    constructor
    · intro mapped
      exact congrArg Except.error (Except.error.inj mapped)
    · intro failed
      exact congrArg Except.error (Except.error.inj failed)
  | ok before =>
    constructor
    · intro mapped
      cases mapped
    · intro failed
      cases failed

theorem mapError_eq_ok_iff {first : Except ε α} {f : ε → δ} {answer : α} :
    first.mapError f = .ok answer ↔ first = .ok answer := by
  cases first with
  | error failure =>
    constructor
    · intro mapped
      cases mapped
    · intro answered
      cases answered
  | ok before =>
    constructor
    · intro mapped
      exact congrArg Except.ok (Except.ok.inj mapped)
    · intro answered
      exact congrArg Except.ok (Except.ok.inj answered)

theorem mapError_eq_error_iff {first : Except ε α} {f : ε → δ} {failure : δ} :
    first.mapError f = .error failure ↔ ∃ cause, first = .error cause ∧ f cause = failure := by
  cases first with
  | error cause =>
    constructor
    · intro mapped
      exact ⟨cause, rfl, Except.error.inj mapped⟩
    · rintro ⟨other, same, mapped⟩
      cases same
      exact congrArg Except.error mapped
  | ok before =>
    constructor
    · intro mapped
      cases mapped
    · rintro ⟨cause, failed, -⟩
      cases failed

/-- What every step keeps holds at the end of a run over a list. -/
theorem foldlM_invariant {step : β → α → Except ε β} (invariant : β → Prop)
    (keeps : ∀ state item state', invariant state → step state item = .ok state' →
      invariant state')
    {items : List α} {start final : β} (holds : invariant start)
    (answered : items.foldlM step start = .ok final) : invariant final := by
  induction items generalizing start with
  | nil =>
    cases answered
    exact holds
  | cons item items ih =>
    rw [List.foldlM_cons] at answered
    obtain ⟨middle, stepped, rest⟩ := bind_eq_ok_iff.mp answered
    exact ih (keeps start item middle holds stepped) rest

end DiceTower.Pipeline
