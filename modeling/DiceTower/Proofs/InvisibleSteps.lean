import DiceTower.Proofs.EntryPoints

/-!
# Steps that leave no trace

A step that reads a text, writes or checks a command, or executes a text that is refused before it
is rolled, leaves the table as it was and calls nothing (`Table.step_of_invisible`). Which steps
these are depends on the rollers alone, and the rollers change only where one is seated
(`Table.rollers_step`), so the steps of a run can be marked beforehand. The run of the steps that
are left comes to what they came to among the others (`Table.run_marked`). A text is refused just
where its roller fails to read it or to pass its command (`Options.refuses_iff`).

The main statement is `Table.run_without_invisible`.
-/

namespace DiceTower

open Play

/-- The items of a list that are marked. -/
def marked {α : Type} : List Bool → List α → List α
  | true :: marks, item :: items => item :: marked marks items
  | false :: marks, _ :: items => marked marks items
  | _, _ => []

namespace Options

/-- A text is refused before it is rolled: it cannot be read, or it is above a limit. -/
def refuses (options : Options) (text : Option String) : Bool :=
  match options.read text with
  | .error _ => true
  | .ok command => (options.limits.firstExceeded? command).isSome

end Options

namespace Table

variable {σ : Type} {source : Source σ}

/-- A step that reads, writes or checks, or executes a text that is refused. -/
def invisible (rollers : List Options) (step : Step) : Bool :=
  match step.action with
  | .execute text => (rollers[step.place]?).any (·.refuses text)
  | .read _ => true
  | .write _ => true
  | .check _ _ => true
  | .seat _ => false

/-- The rollers after a step. -/
def rollersAfter (rollers : List Options) (step : Step) : List Options :=
  match step.action with
  | .seat revision => rollers ++ ((rollers[step.place]?).map (·.revise revision)).toList
  | _ => rollers

/-- Which of some steps are visible, one after the other. -/
def visible : List Options → List Step → List Bool
  | _, [] => []
  | rollers, step :: rest =>
    (!invisible rollers step) :: visible (rollersAfter rollers step) rest

end Table

/-! ## One action -/

namespace Limits

theorem run_check {σ : Type} (limits : Limits) (command : Command) (state : σ) :
    ((limits.check command).run state).source = state ∧
      ((limits.check command).run state).calls = [] := by
  cases exceeded : limits.firstExceeded? command with
  | some excess =>
    rw [run_check_of_exceeded exceeded]
    exact ⟨rfl, rfl⟩
  | none =>
    rw [check_of_within exceeded]
    exact ⟨rfl, rfl⟩

end Limits

namespace Options

variable {σ : Type} (options : Options) (source : Source σ) (state : σ)

theorem run_execute_of_refuses {text : Option String} (refused : options.refuses text = true) :
    ((options.execute source text).run state).source = state ∧
      ((options.execute source text).run state).calls = [] := by
  have course := options.course source text state
  generalize (options.execute source text).run state = ran at course ⊢
  cases course with
  | unread reads => exact ⟨rfl, rfl⟩
  | refused reads exceeded => exact ⟨rfl, rfl⟩
  | rolled reads within =>
    rw [refuses, read, reads] at refused
    dsimp only at refused
    rw [within] at refused
    cases refused

theorem run_perform_write (command : Option Command) :
    (options.perform source (.write command)).run state =
      ⟨(options.write command).map .text, state, [], []⟩ := by
  unfold perform
  dsimp only
  rw [run_map, run_ofExcept]

/-- A text is refused if the roller fails to read it, or its command does not pass his check. -/
theorem refuses_iff (text : Option String) :
    options.refuses text = true ↔
      (∃ failure, ((options.perform source (.read text)).run state).result = .error failure) ∨
        ∃ command failure,
          ((options.perform source (.read text)).run state).result = .ok (.command command) ∧
            ((options.perform source (.check command none)).run state).result =
              .error failure := by
  simp only [run_perform_read, run_perform_check, refuses, Option.getD_none]
  cases options.read text with
  | error failure => simp [Except.map]
  | ok command =>
    simp only [Except.map, Except.ok.injEq, Answer.command.injEq, exists_and_left,
      exists_eq_left', reduceCtorEq, exists_false, false_or]
    cases exceeded : options.limits.firstExceeded? command with
    | some excess => simp [Limits.run_check_of_exceeded exceeded]
    | none => simp [Limits.check_of_within exceeded]

/-- Whatever does not roll calls nothing. -/
theorem run_perform_of_invisible {rollers : List Options} {step : Step}
    (seated : rollers[step.place]? = some options)
    (hidden : Table.invisible rollers step = true) :
    ((options.perform source step.action).run state).source = state ∧
      ((options.perform source step.action).run state).calls = [] := by
  rcases step with ⟨place, action⟩
  dsimp only at seated ⊢
  unfold Table.invisible at hidden
  dsimp only at hidden
  cases action with
  | execute text =>
    dsimp only at hidden
    rw [seated] at hidden
    have refused : options.refuses text = true := hidden
    rw [run_perform_execute]
    dsimp only
    exact run_execute_of_refuses options source state refused
  | read text =>
    rw [run_perform_read]
    exact ⟨rfl, rfl⟩
  | write command =>
    rw [run_perform_write]
    exact ⟨rfl, rfl⟩
  | check command limits =>
    rw [run_perform_check]
    exact Limits.run_check _ command state
  | seat revision => cases hidden

end Options

namespace Table

variable {σ : Type} {source : Source σ}

/-! ## One step -/

theorem seatedAfter_map {α : Type} (rollers : List Options) (result : Except Failure α)
    (answer : α → Answer) (unseated : ∀ value options, answer value ≠ .seated options) :
    seatedAfter rollers (result.map answer) = rollers := by
  unfold seatedAfter
  split
  · rename_i options seated
    rcases Pipeline.map_eq_ok_iff.mp seated with ⟨value, -, same⟩
    exact (unseated value options same).elim
  · rfl

/-- The rollers change only where one is seated, whatever the source does. -/
theorem rollers_step (table : Table σ) (step : Step) :
    (table.step source step).2.rollers = rollersAfter table.rollers step := by
  rcases step with ⟨place, action⟩
  unfold Table.step rollersAfter
  dsimp only
  cases found : table.rollers[place]? with
  | none =>
    cases action with
    | seat revision => exact (List.append_nil _).symm
    | _ => rfl
  | some options =>
    dsimp only
    cases action with
    | execute text =>
      rw [Options.run_perform_execute]
      dsimp only
      exact seatedAfter_map _ _ Answer.report fun _ _ => Answer.noConfusion
    | read text =>
      rw [Options.run_perform_read]
      dsimp only
      exact seatedAfter_map _ _ Answer.command fun _ _ => Answer.noConfusion
    | write command =>
      rw [Options.run_perform_write]
      dsimp only
      exact seatedAfter_map _ _ Answer.text fun _ _ => Answer.noConfusion
    | check command limits =>
      rw [Options.run_perform_check]
      exact seatedAfter_map _ _ (fun _ => .passed) fun _ _ => Answer.noConfusion
    | seat revision => rfl

/-- An execution is left out just where the roller that is asked for it refuses the text. -/
theorem invisible_execute_iff (rollers : List Options) (place : Nat) (text : Option String) :
    invisible rollers ⟨place, .execute text⟩ = true ↔
      ∃ options, rollers[place]? = some options ∧ options.refuses text = true := by
  rw [invisible]
  cases rollers[place]? <;> simp

theorem rollersAfter_of_invisible {rollers : List Options} {step : Step}
    (hidden : invisible rollers step = true) : rollersAfter rollers step = rollers := by
  rcases step with ⟨place, action⟩
  cases action with
  | seat revision => cases hidden
  | _ => rfl

/-- An invisible step leaves the table as it was, and calls nothing. -/
theorem step_of_invisible {table : Table σ} {step : Step}
    (hidden : invisible table.rollers step = true) :
    (table.step source step).2 = table ∧ (table.step source step).1.calls = [] := by
  have rollers : (table.step source step).2.rollers = table.rollers := by
    rw [rollers_step, rollersAfter_of_invisible hidden]
  unfold Table.step at rollers ⊢
  cases seated : table.rollers[step.place]? with
  | none => exact ⟨rfl, rfl⟩
  | some options =>
    rw [seated] at rollers
    rcases options.run_perform_of_invisible source table.source seated hidden with
      ⟨unmoved, uncalled⟩
    dsimp only at rollers ⊢
    rw [rollers, unmoved]
    exact ⟨rfl, uncalled⟩

/-! ## A run -/

theorem run_cons (table : Table σ) (step : Step) (rest : List Step) :
    table.run source (step :: rest) =
      ((table.step source step).1 :: ((table.step source step).2.run source rest).1,
        ((table.step source step).2.run source rest).2) :=
  rfl

theorem run_marked (source : Source σ) (table : Table σ) (steps : List Step) :
    let marks := visible table.rollers steps
    let whole := table.run source steps
    let rest := table.run source (marked marks steps)
    rest.1 = marked marks whole.1 ∧
      rest.1.flatMap Performed.calls = whole.1.flatMap Performed.calls ∧
      rest.2 = whole.2 := by
  dsimp only
  induction steps generalizing table with
  | nil => exact ⟨rfl, rfl, rfl⟩
  | cons step steps hypothesis =>
    have later := hypothesis (table.step source step).2
    rw [rollers_step] at later
    rcases later with ⟨answers, calls, left⟩
    rw [visible, run_cons]
    cases hidden : invisible table.rollers step with
    | true =>
      have unmoved := (step_of_invisible hidden : (table.step source step).2 = table ∧ _)
      rcases unmoved with ⟨same, uncalled⟩
      rw [same] at answers calls left ⊢
      refine ⟨answers, ?_, left⟩
      rw [List.flatMap_cons, uncalled]
      exact calls
    | false =>
      refine ⟨congrArg (List.cons _) answers, ?_, left⟩
      exact congrArg (List.append _) calls

/-- The visible steps of a run come to the same without the others: each of them to the same
answer or failure, all together to the same calls, and the table to the same rollers and the same
source. Of the executions those are left out whose roller fails to read the text, or does not pass
the command that he reads. -/
theorem run_without_invisible (source : Source σ) (table : Table σ) (steps : List Step) :
    let marks := visible table.rollers steps
    let whole := table.run source steps
    let rest := table.run source (marked marks steps)
    rest.1 = marked marks whole.1 ∧
      rest.1.flatMap Performed.calls = whole.1.flatMap Performed.calls ∧
      rest.2 = whole.2 ∧
      ∀ rollers place text, invisible rollers ⟨place, .execute text⟩ = true ↔
        ∃ options : Options, rollers[place]? = some options ∧
          ((∃ failure,
              ((options.perform source (.read text)).run table.source).result = .error failure) ∨
            ∃ command failure,
              ((options.perform source (.read text)).run table.source).result =
                  .ok (.command command) ∧
                ((options.perform source (.check command none)).run table.source).result =
                  .error failure) := by
  rcases run_marked source table steps with ⟨answers, calls, left⟩
  refine ⟨answers, calls, left, fun rollers place text => ?_⟩
  rw [invisible_execute_iff]
  exact exists_congr fun options =>
    and_congr_right fun _ => options.refuses_iff source table.source text

/-- An execution counts as refused by the limits of its own roller. -/
example :
    visible [{}] [⟨0, .read none⟩, ⟨0, .execute (some "200d6")⟩,
      ⟨0, .seat { limits := .overlaid [("times", none)] }⟩, ⟨1, .execute (some "200d6")⟩] =
        [false, false, true, true] := by
  decide +kernel

end Table

end DiceTower
