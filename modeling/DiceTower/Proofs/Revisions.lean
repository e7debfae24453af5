import DiceTower.Proofs.InvisibleSteps

/-!
# Chains of revisions

A revision writes the whole of the options, and yet each part of them has a history of its own: it
has the value that the last revision to give it one has given, and the value it started with if
none has. `Revision.givenCommand` and `Revision.givenLimit` say what a revision gives, and
`foldl_eq_last_given` is the one induction behind all histories, that of the names laid over some
limits included.

Options may be revised in several ways. What they grow into is a tree, and each of its options is
revised by the revisions of its own branch alone (`Options.growAll_eq`). The rollers at a table
grow in the same way, whatever else they are asked for in between (`Table.rollers_run`).

The main statement is `Options.revised_as_last_given`.
-/

namespace DiceTower

/-- What every step writes over, or leaves, is in the end what the last step to give something has
given. -/
theorem foldl_eq_last_given {σ α β : Type} (step : σ → α → σ) (view : σ → β)
    (given : α → Option β)
    (writes : ∀ state item, view (step state item) = (given item).getD (view state))
    (items : List α) (start : σ) :
    view (items.foldl step start) = (items.filterMap given).getLast?.getD (view start) := by
  induction items generalizing start with
  | nil => rfl
  | cons item items hypothesis =>
    rw [List.foldl_cons, hypothesis, writes]
    cases gave : given item with
    | none => rw [List.filterMap_cons_none gave, Option.getD_none]
    | some value =>
      rw [List.filterMap_cons_some gave, List.getLast?_cons, Option.getD_some, Option.getD_some]

/-! ## What a revision gives -/

namespace Revision

/-- The command that a revision gives: the empty one counts for nothing. -/
def givenCommand (revision : Revision) : Option String :=
  revision.command.filter (· ≠ "")

/-- The limit that a named one is for a field. -/
def namedLimit (field : Field) (named : String × Option Int) : Option (Option Int) :=
  if named.1 = field.name then some named.2 else none

/-- What a revision gives as the limit of a field. To give no limit is to give something too: it
takes away the limit that was there. -/
def givenLimit (revision : Revision) (field : Field) : Option (Option Int) :=
  match revision.limits with
  | .kept => none
  | .replaced limits => some (limits.get field)
  | .overlaid named => (named.filterMap (namedLimit field)).getLast?

/-- A revision without the names of no field. -/
def withoutUnknown (revision : Revision) : Revision :=
  match revision.limits with
  | .overlaid named =>
    { revision with
      limits := .overlaid (named.filter fun entry => (Field.ofName? entry.1).isSome) }
  | _ => revision

end Revision

/-! ## One revision -/

theorem Field.ofName?_eq_some_iff {name : String} {field : Field} :
    Field.ofName? name = some field ↔ name = field.name := by
  constructor
  · intro found
    rw [Field.ofName?] at found
    have named := List.find?_some found
    exact (beq_iff_eq.mp named).symm
  · intro same
    rw [same]
    exact Field.ofName?_name field

namespace Limits

theorem get_setNamed (limits : Limits) (entry : String × Option Int) (field : Field) :
    (limits.setNamed entry.1 entry.2).get field =
      (Revision.namedLimit field entry).getD (limits.get field) := by
  rcases entry with ⟨name, limit⟩
  unfold setNamed Revision.namedLimit
  dsimp only
  cases known : Field.ofName? name with
  | none =>
    have other : name ≠ field.name := by
      intro same
      rw [Field.ofName?_eq_some_iff.mpr same] at known
      cases known
    rw [if_neg other]
    rfl
  | some found =>
    have name_eq := Field.ofName?_eq_some_iff.mp known
    dsimp only
    rw [get_set]
    by_cases same : field = found
    · rw [if_pos same, if_pos (same ▸ name_eq)]
      rfl
    · have other : name ≠ field.name := by
        intro field_named
        have again := Field.ofName?_eq_some_iff.mpr field_named
        rw [known] at again
        exact same (Option.some.inj again).symm
      rw [if_neg same, if_neg other]
      rfl

/-- Of the limits that are named for a field the last one is laid over its limit. -/
theorem get_overlay (limits : Limits) (named : List (String × Option Int)) (field : Field) :
    (limits.overlay named).get field =
      (named.filterMap (Revision.namedLimit field)).getLast?.getD (limits.get field) :=
  foldl_eq_last_given (fun limits entry => limits.setNamed entry.1 entry.2)
    (fun limits => limits.get field) (Revision.namedLimit field)
    (fun limits entry => get_setNamed limits entry field) named limits

theorem overlay_known (limits : Limits) (named : List (String × Option Int)) :
    limits.overlay (named.filter fun entry => (Field.ofName? entry.1).isSome) =
      limits.overlay named := by
  rw [overlay, List.foldl_filter, overlay]
  congr 1
  funext limits entry
  rcases entry with ⟨name, limit⟩
  unfold setNamed
  dsimp only
  cases Field.ofName? name with
  | none => rfl
  | some field => rfl

end Limits

namespace Options

theorem command_revise (options : Options) (revision : Revision) :
    (options.revise revision).command = revision.givenCommand.getD options.command := by
  unfold revise Revision.givenCommand
  dsimp only
  cases revision.command with
  | none => rfl
  | some command =>
    by_cases empty : command = ""
    · rw [empty]
      rfl
    · have given : (some command).filter (· ≠ "") = some command := by simp [empty]
      dsimp only
      rw [given, if_neg (mt String.isEmpty_iff.mp empty)]
      rfl

theorem get_limits_revise (options : Options) (revision : Revision) (field : Field) :
    (options.revise revision).limits.get field =
      (revision.givenLimit field).getD (options.limits.get field) := by
  unfold revise Limits.revise Revision.givenLimit
  dsimp only
  cases revision.limits with
  | kept => rfl
  | replaced limits => rfl
  | overlaid named => exact Limits.get_overlay options.limits named field

/-- Names of no field change nothing. -/
theorem revise_withoutUnknown (options : Options) (revision : Revision) :
    options.revise revision.withoutUnknown = options.revise revision := by
  rcases revision with ⟨command, limits⟩
  cases limits with
  | kept => rfl
  | replaced limits => rfl
  | overlaid named =>
    unfold Revision.withoutUnknown revise Limits.revise
    dsimp only
    rw [Limits.overlay_known]

/-! ## Chains and branches -/

/-- The options after some revisions, one after the other. -/
def reviseAll (options : Options) (revisions : List Revision) : Options :=
  revisions.foldl revise options

/-- All options that come about from some, each by a revision of those at a place, or of the last
ones. -/
def growAll (options : Options) (steps : List (Option Nat × Revision)) : List Options :=
  steps.foldl (fun states step => grow states step.1 step.2) [options]

end Options

namespace Revision

/-- Branches grown by one revision of one of them, the last one unless a place is given. -/
def branch (branches : List (List Revision)) (place : Option Nat) (revision : Revision) :
    List (List Revision) :=
  branches ++ ((branches[place.getD (branches.length - 1)]?).map (· ++ [revision])).toList

/-- The branches that some steps grow into: for each of them the revisions on the way to it. -/
def branches (steps : List (Option Nat × Revision)) : List (List Revision) :=
  steps.foldl (fun branches step => branch branches step.1 step.2) [[]]

end Revision

namespace Options

theorem grow_map_reviseAll (options : Options) (branches : List (List Revision))
    (place : Option Nat) (revision : Revision) :
    grow (branches.map options.reviseAll) place revision =
      (Revision.branch branches place revision).map options.reviseAll := by
  have extended : ∀ revisions, options.reviseAll (revisions ++ [revision]) =
      (options.reviseAll revisions).revise revision :=
    List.foldl_concat revise options revision
  unfold grow Revision.branch
  rw [List.length_map, List.getElem?_map, List.map_append]
  cases branches[place.getD (branches.length - 1)]? with
  | none => rfl
  | some revisions =>
    simp only [Option.map_some, Option.toList_some, List.map_cons, List.map_nil, extended]

/-- Options on one branch see nothing of the revisions on another one. -/
theorem growAll_eq (options : Options) (steps : List (Option Nat × Revision)) :
    options.growAll steps = (Revision.branches steps).map options.reviseAll := by
  change steps.foldl _ ([[]].map options.reviseAll) = _
  exact List.foldl_hom (List.map options.reviseAll)
    fun branches step => grow_map_reviseAll options branches step.1 step.2

end Options

/-- The revision that a step seats a new roller by, with the place of the one whose options are
revised. -/
def Step.seating? (step : Step) : Option (Option Nat × Revision) :=
  match step.action with
  | .seat revision => some (some step.place, revision)
  | _ => none

/-- The rollers at a table grow as options do, and by nothing but seatings. -/
theorem Table.rollers_run {σ : Type} (source : Source σ) (table : Table σ) (steps : List Step) :
    (table.run source steps).2.rollers =
      (steps.filterMap Step.seating?).foldl
        (fun states step => Options.grow states step.1 step.2) table.rollers := by
  induction steps generalizing table with
  | nil => rfl
  | cons step steps hypothesis =>
    rw [run_cons]
    dsimp only
    rw [hypothesis, rollers_step]
    rcases step with ⟨place, action⟩
    cases action with
    | seat revision => rfl
    | _ => rfl

namespace Options

/-- After a chain of revisions the command and each limit are what the last revision to give them
something has given, and what they were if none has. Names of no field do not count, and neither do
the revisions on other branches, be they of options or of the rollers at a table. -/
theorem revised_as_last_given (options : Options) (revisions : List Revision) :
    let revised := options.reviseAll revisions
    revised.command =
        (revisions.filterMap Revision.givenCommand).getLast?.getD options.command ∧
      (∀ field, revised.limits.get field =
        (revisions.filterMap (·.givenLimit field)).getLast?.getD (options.limits.get field)) ∧
      options.reviseAll (revisions.map Revision.withoutUnknown) = revised ∧
      (∀ steps, options.growAll steps = (Revision.branches steps).map options.reviseAll) ∧
      ∀ {σ : Type} (source : Source σ) (state : σ) (steps : List Step),
        (Table.run source ⟨[options], state⟩ steps).2.rollers =
          options.growAll (steps.filterMap Step.seating?) := by
  intro revised
  refine ⟨?_, fun field => ?_, ?_, growAll_eq options, fun source state steps => ?_⟩
  · exact foldl_eq_last_given revise command Revision.givenCommand command_revise revisions options
  · exact foldl_eq_last_given revise (fun options => options.limits.get field)
      (fun revision => revision.givenLimit field)
      (fun options revision => get_limits_revise options revision field) revisions options
  · rw [reviseAll, List.foldl_map]
    exact congrArg (fun step => revisions.foldl step options)
      (funext fun options => funext fun revision => revise_withoutUnknown options revision)
  · exact Table.rollers_run source ⟨[options], state⟩ steps

-- A whole value, an absent limit, a name of no field and an empty command in one chain.
example : ({} : Options).reviseAll
    [{ command := some "2d6", limits := .overlaid [("faces", some 6), ("luck", some 1)] },
      { limits := .replaced { times := some 2 } },
      { command := some "", limits := .overlaid [("times", none), ("repeat", some 3)] }] =
    { command := "2d6", limits := { rounds := some 3 } } := by
  decide

end Options

end DiceTower
