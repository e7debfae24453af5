/-!
# Records

A record holds named values in the order in which the names first came up. Writing a name that is
there changes its value in place, and writing a new one appends it. What becomes of each name when
names are written or erased is said by one equation for each way (`get?_put`, `get?_putNew`,
`get?_erase`), and by one for many names at a time.
-/

namespace DiceTower

/-- Named values in order. -/
abbrev Record (α : Type) := List (String × α)

namespace Record

variable {α : Type}

/-- The value of a name. -/
def get? : Record α → String → Option α
  | [], _ => none
  | (key, value) :: rest, name => if key = name then some value else get? rest name

/-- The record with another value for a name. -/
def put : Record α → String → α → Record α
  | [], name, value => [(name, value)]
  | (key, held) :: rest, name, value =>
    if key = name then (key, value) :: rest else (key, held) :: put rest name value

/-- The record with the values of another one. -/
def putAll (record others : Record α) : Record α :=
  others.foldl (fun record (name, value) => put record name value) record

/-- The record with a value for a name that has none. -/
def putNew (record : Record α) (name : String) (value : α) : Record α :=
  if (get? record name).isSome then record else put record name value

/-- The record with the values of another one for the names that have none. -/
def putAllNew (record others : Record α) : Record α :=
  others.foldl (fun record (name, value) => putNew record name value) record

/-- The record without a name. -/
def erase (record : Record α) (name : String) : Record α :=
  record.filter fun (key, _) => key ≠ name

/-- What the record has for some names. -/
def only (record : Record α) (names : List String) : Record α :=
  names.filterMap fun name => (get? record name).map (name, ·)

theorem get?_put (record : Record α) (name other : String) (value : α) :
    get? (put record name value) other =
      if other = name then some value else get? record other := by
  induction record with
  | nil =>
    by_cases same : other = name
    · simp [put, get?, same]
    · simp [put, get?, same, Ne.symm same]
  | cons entry rest ih =>
    rcases entry with ⟨key, held⟩
    by_cases here : key = name
    · subst here
      by_cases same : other = key
      · simp [put, get?, same]
      · simp [put, get?, same, Ne.symm same]
    · by_cases same : other = name
      · subst same
        simpa [put, get?, here] using ih
      · simp only [if_neg same] at ih ⊢
        simp [put, get?, here, ih]

theorem get?_putNew (record : Record α) (name other : String) (value : α) :
    get? (putNew record name value) other =
      if other = name then some ((get? record name).getD value) else get? record other := by
  unfold putNew
  cases held : get? record name with
  | none => simp [get?_put]
  | some before =>
    by_cases same : other = name
    · simp [same, held]
    · simp [same]

theorem get?_putAllNew (record others : Record α) (name : String) :
    get? (putAllNew record others) name = (get? record name).or (get? others name) := by
  induction others generalizing record with
  | nil => rw [get?, Option.or_none, putAllNew, List.foldl_nil]
  | cons first rest hypothesis =>
    rcases first with ⟨key, value⟩
    have step : putAllNew record ((key, value) :: rest) =
        putAllNew (putNew record key value) rest := rfl
    rw [step, hypothesis, get?_putNew, get?]
    by_cases same : name = key
    · rw [if_pos same, if_pos same.symm, same]
      cases get? record key <;> rfl
    · rw [if_neg same, if_neg (Ne.symm same)]

theorem get?_erase (record : Record α) (name other : String) :
    get? (erase record name) other = if other = name then none else get? record other := by
  induction record with
  | nil => simp [erase, get?]
  | cons first rest hypothesis =>
    rcases first with ⟨key, value⟩
    unfold erase at hypothesis ⊢
    by_cases here : key = name
    · rw [List.filter_cons_of_neg (by simp [here]), hypothesis, get?, here]
      by_cases same : other = name
      · rw [if_pos same, if_pos same]
      · rw [if_neg same, if_neg same, if_neg (Ne.symm same)]
    · rw [List.filter_cons_of_pos (by simp [here]), get?, get?, hypothesis]
      by_cases same : key = other
      · rw [if_pos same, if_pos same, if_neg (same ▸ here)]
      · rw [if_neg same, if_neg same]

theorem get?_foldl_erase (names : List String) (record : Record α) (name : String) :
    get? (names.foldl erase record) name = if name ∈ names then none else get? record name := by
  induction names generalizing record with
  | nil => rfl
  | cons first names hypothesis =>
    rw [List.foldl_cons, hypothesis, get?_erase]
    by_cases later : name ∈ names
    · rw [if_pos later, if_pos (List.mem_cons_of_mem _ later)]
    · by_cases same : name = first
      · rw [if_neg later, if_pos same, if_pos (same ▸ List.mem_cons_self)]
      · have absent : name ∉ first :: names := by simp [same, later]
        rw [if_neg later, if_neg same, if_neg absent]

end Record

end DiceTower
