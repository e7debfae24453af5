import DiceTower.Proofs.DigitRun
import DiceTower.Proofs.Pipeline
import DiceTower.Service
import Mathlib.Data.List.Nodup

/-!
# What a service is configured with

The environment decides a setting if it names it, then the environment file, and then the usual
value stands. `Places.Decides` says so of the text of a setting, `Places.Imposes` of the limit of a
field, and `Places.StandsIn` of the command in place of a blank one; none of them looks at the order
of the names in a place.

A service that starts has the options that its places configure (`Service.configures_of_start`).
The places are plain: no code gives a setting, and no place writes one name in two ways. Of two
writings one would win by its position alone.
-/

namespace DiceTower

namespace Settings.IntegerText

open Numeral

theorem length_le_of_not_startsTooLong {text : List Char} (digits : text.all Char.isDigit = true)
    (leading : text.head?.any isLeading = true) (short : startsTooLong text = false) :
    text.length ≤ maxDigits := by
  have whole : text.takeWhile Char.isDigit = text :=
    List.takeWhile_eq_self_iff.mpr fun c member => List.all_eq_true.mp digits c member
  rw [startsTooLong, leading, whole, Bool.true_and, decide_eq_false_iff_not] at short
  omega

theorem lt_bound_of_numeral? {text : List Char} {size : Nat} (answered : numeral? text = some size) :
    size < bound := by
  unfold numeral? at answered
  split at answered
  · cases answered
    exact bound_pos
  · split at answered
    · rename_i shape
      cases answered
      simp only [Bool.and_eq_true, Bool.not_eq_true'] at shape
      rcases shape with ⟨⟨leading, digits⟩, short⟩
      exact value_lt_bound (length_le_of_not_startsTooLong digits leading short)
    · cases answered

theorem fits_of_signedNumeral? {text : List Char} {limit : Int}
    (answered : signedNumeral? text = some limit) : Fits limit := by
  unfold signedNumeral? at answered
  split at answered
  · cases read : numeral? _ with
    | none =>
      rw [read] at answered
      cases answered
    | some size =>
      rw [read] at answered
      cases answered
      rw [Fits, Int.natAbs_neg]
      exact lt_bound_of_numeral? read
  · rcases Option.map_eq_some_iff.mp answered with ⟨size, read, rfl⟩
    exact lt_bound_of_numeral? read

/-- A limit that can be read can be written. -/
theorem fits_of_read {text : String} {limit : Int} (answered : read text = .ok limit) :
    Fits limit := by
  unfold read at answered
  split at answered
  · cases answered
  · split at answered
    · rename_i value reading
      cases answered
      rcases Option.bind_eq_some_iff.mp reading with ⟨numeral, -, numbered⟩
      exact fits_of_signedNumeral? numbered
    · cases answered

end Settings.IntegerText

namespace Places

/-! ## Names without regard to case -/

section Names

variable {α : Type} {named : List (String × α)} {name : String} {value : α}

/-- A name has a value in a list, in whatever case it is written there. -/
def Names (named : List (String × α)) (name : String) (value : α) : Prop :=
  ∃ key, (key, value) ∈ named ∧ key.toLower = name

/-- No two names of a list are equal up to case. -/
def Distinct (named : List (String × α)) : Prop :=
  (named.map fun entry => entry.1.toLower).Nodup

instance (named : List (String × α)) : Decidable (Distinct named) :=
  inferInstanceAs (Decidable (List.Nodup _))

theorem firstNamed?_eq (named : List (String × α)) (name : String) :
    firstNamed? named name =
      (named.find? fun entry => entry.1.toLower == name).map Prod.snd :=
  rfl

theorem firstNamed?_eq_some_iff (distinct : Distinct named) :
    firstNamed? named name = some value ↔ Names named name value := by
  have written : ∀ entry, named.find? (fun entry => entry.1.toLower == name) = some entry →
      entry ∈ named ∧ entry.1.toLower = name := by
    intro entry found
    have matched := List.find?_some found
    exact ⟨List.mem_of_find?_eq_some found, beq_iff_eq.mp matched⟩
  rw [firstNamed?_eq, Option.map_eq_some_iff]
  constructor
  · intro first
    rcases first with ⟨entry, found, rfl⟩
    exact ⟨entry.1, written entry found⟩
  · intro held
    rcases held with ⟨key, member, lowered⟩
    refine ⟨(key, value), ?_, rfl⟩
    cases found : named.find? fun entry => entry.1.toLower == name with
    | none =>
      have passed := List.find?_eq_none.mp found (key, value) member
      exact (passed (beq_iff_eq.mpr lowered)).elim
    | some other =>
      rcases written other found with ⟨otherMember, otherLowered⟩
      have same := otherLowered.trans lowered.symm
      rw [List.inj_on_of_nodup_map distinct otherMember member same]

/-- Where names are distinct, their order makes no difference. -/
theorem lastNamed?_eq_some_iff (distinct : Distinct named) :
    lastNamed? named name = some value ↔ Names named name value := by
  have reversed : Distinct named.reverse := by
    rw [Distinct, List.map_reverse, List.nodup_reverse]
    exact distinct
  rw [lastNamed?, firstNamed?_eq_some_iff reversed]
  simp only [Names, List.mem_reverse]

theorem lastNamed?_eq_none_iff (distinct : Distinct named) :
    lastNamed? named name = none ↔ ∀ value, ¬ Names named name value := by
  rw [Option.eq_none_iff_forall_ne_some]
  exact forall_congr' fun value => not_congr (lastNamed?_eq_some_iff distinct)

end Names

/-! ## The text of a setting -/

/-- No code gives a setting, and no place writes one name in two ways. -/
structure Plain (places : Places) : Prop where
  given : places.given = []
  environment : Distinct places.environment
  file : Distinct (Settings.EnvFile.read places.environment places.file)

/-- The text that decides a setting, if any does: that of the environment, or else that of the
environment file. A name without an equals sign has no text there. -/
inductive Decides (places : Places) (setting : Setting) : Option String → Prop
  | environment {text : String}
      (named : Names places.environment setting.environmentName text) :
      Decides places setting (some text)
  | file {text : String}
      (unnamed : ∀ other, ¬ Names places.environment setting.environmentName other)
      (named : Names (Settings.EnvFile.read places.environment places.file)
        setting.environmentName (some text)) :
      Decides places setting (some text)
  | nowhere
      (unnamed : ∀ other, ¬ Names places.environment setting.environmentName other)
      (unfiled : ∀ other, ¬ Names (Settings.EnvFile.read places.environment places.file)
        setting.environmentName (some other)) :
      Decides places setting none

variable {places : Places} {setting : Setting} {field : Field}

theorem exists_decides (places : Places) (setting : Setting) :
    ∃ text, places.Decides setting text := by
  by_cases named : ∃ text, Names places.environment setting.environmentName text
  · rcases named with ⟨text, named⟩
    exact ⟨some text, .environment named⟩
  have unnamed := not_exists.mp named
  by_cases filed : ∃ text, Names (Settings.EnvFile.read places.environment places.file)
      setting.environmentName (some text)
  · rcases filed with ⟨text, filed⟩
    exact ⟨some text, .file unnamed filed⟩
  · exact ⟨none, .nowhere unnamed (not_exists.mp filed)⟩

theorem find?_of_decides (plain : places.Plain) {text : Option String}
    (decides : places.Decides setting text) : places.find? setting = text.map Value.text := by
  rw [find?, plain.given]
  cases decides with
  | environment named =>
    rw [(lastNamed?_eq_some_iff plain.environment).mpr named]
    rfl
  | file unnamed filed =>
    rw [(lastNamed?_eq_none_iff plain.environment).mpr unnamed,
      (lastNamed?_eq_some_iff plain.file).mpr filed]
    rfl
  | nowhere unnamed unfiled =>
    have absent : (lastNamed? (Settings.EnvFile.read places.environment places.file)
        setting.environmentName).join = none := by
      rw [Option.eq_none_iff_forall_ne_some]
      intro text joined
      rw [Option.join_eq_some_iff, lastNamed?_eq_some_iff plain.file] at joined
      exact unfiled text joined
    rw [(lastNamed?_eq_none_iff plain.environment).mpr unnamed, absent]
    rfl

/-! ## The limit of a field -/

/-- The limit that is imposed on a field: the integer of the text that decides it, and 100 if no
text does. -/
inductive Imposes (places : Places) (field : Field) : Int → Prop
  | configured {text : String} {limit : Int} (decides : places.Decides (.limit field) (some text))
      (reads : Settings.IntegerText.read text = .ok limit) : Imposes places field limit
  | usual (decides : places.Decides (.limit field) none) : Imposes places field 100

theorem Imposes.fits {limit : Int} (imposes : places.Imposes field limit) :
    Numeral.Fits limit := by
  cases imposes with
  | configured decides reads => exact Settings.IntegerText.fits_of_read reads
  | usual decides => exact Numeral.fits_of_natAbs_lt (by decide)

theorem limit_of_imposes (plain : places.Plain) {limit : Int} (imposes : places.Imposes field limit) :
    places.limit field = .ok (some limit) := by
  cases imposes with
  | configured decides reads =>
    rw [Places.limit, Places.setting, find?_of_decides plain decides]
    simp only [Option.map_some, Setting.readLimit, reads, Except.mapError, Except.map]
  | usual decides =>
    rw [Places.limit, Places.setting, find?_of_decides plain decides]
    rfl

theorem imposes_of_limit (plain : places.Plain) {limit : Option Int}
    (answered : places.limit field = .ok limit) :
    ∃ bound, limit = some bound ∧ places.Imposes field bound := by
  rcases places.exists_decides (.limit field) with ⟨text, decides⟩
  rw [Places.limit, Places.setting, find?_of_decides plain decides] at answered
  cases text with
  | none =>
    cases answered
    exact ⟨100, rfl, .usual decides⟩
  | some text =>
    rcases Pipeline.map_eq_ok_iff.mp answered with ⟨bound, read, rfl⟩
    exact ⟨bound, rfl, .configured decides (Pipeline.mapError_eq_ok_iff.mp read)⟩

/-! ## The stand-in of a blank command -/

/-- The command in place of a blank one: the text that decides it, unless it is empty, and d20 if
it is or if no text does. -/
inductive StandsIn (places : Places) : String → Prop
  | configured {text : String} (decides : places.Decides .defaultCommand (some text))
      (nonempty : text ≠ "") : StandsIn places text
  | empty (decides : places.Decides .defaultCommand (some "")) : StandsIn places "d20"
  | usual (decides : places.Decides .defaultCommand none) : StandsIn places "d20"

theorem orUsual_of_standsIn (plain : places.Plain) {standIn configured : String}
    (standsIn : places.StandsIn standIn) (answered : places.defaultCommand = .ok configured) :
    standIn = Options.orUsual configured := by
  rw [defaultCommand, Places.setting] at answered
  cases standsIn with
  | configured decides nonempty =>
    rw [find?_of_decides plain decides] at answered
    cases answered
    rw [Options.orUsual, if_neg (mt String.isEmpty_iff.mp nonempty)]
  | empty decides =>
    rw [find?_of_decides plain decides] at answered
    cases answered
    rfl
  | usual decides =>
    rw [find?_of_decides plain decides] at answered
    cases answered
    rfl

theorem standsIn_orUsual (plain : places.Plain) {configured : String}
    (answered : places.defaultCommand = .ok configured) :
    places.StandsIn (Options.orUsual configured) := by
  rcases places.exists_decides .defaultCommand with ⟨text, decides⟩
  rw [defaultCommand, Places.setting, find?_of_decides plain decides] at answered
  cases text with
  | none =>
    cases answered
    exact .usual decides
  | some text =>
    cases answered
    unfold Options.orUsual
    split
    · rename_i empty
      rw [String.isEmpty_iff.mp empty] at decides
      exact .empty decides
    · rename_i nonempty
      exact .configured decides (mt String.isEmpty_iff.mpr nonempty)

/-! ## Options that are configured -/

/-- The options have the limits that the places impose, one for every field, and the command that
stands in for a blank one. -/
structure Configures (places : Places) (options : Options) : Prop where
  limited : ∀ field, ∃ limit, options.limits.get field = some limit
  imposes : ∀ field limit, options.limits.get field = some limit ↔ places.Imposes field limit
  standsIn : ∀ text, places.StandsIn text ↔ text = options.command

end Places

namespace Settings

variable {places : Places} {settings : Settings}

theorem of_load (loaded : load places = .ok settings) :
    places.defaultCommand = .ok settings.defaultCommand ∧
      ∀ field, places.limit field = .ok (settings.limits.get field) := by
  unfold load at loaded
  split at loaded
  · rename_i command times faces modifier multiplier rounds _ _
    cases loaded
    refine ⟨command, fun field => ?_⟩
    cases field
    · exact times
    · exact faces
    · exact modifier
    · exact multiplier
    · exact rounds
  · cases loaded

theorem configures_of_load (plain : places.Plain) (loaded : load places = .ok settings) :
    places.Configures settings.options := by
  rcases of_load loaded with ⟨command, limits⟩
  have bounded : ∀ field, ∃ limit, settings.limits.get field = some limit ∧
      places.Imposes field limit :=
    fun field => Places.imposes_of_limit plain (limits field)
  constructor
  · intro field
    rcases bounded field with ⟨limit, held, -⟩
    exact ⟨limit, held⟩
  · intro field limit
    constructor
    · intro held
      rcases bounded field with ⟨other, otherHeld, imposes⟩
      cases held.symm.trans otherHeld
      exact imposes
    · intro imposes
      exact Except.ok.inj ((limits field).symm.trans (Places.limit_of_imposes plain imposes))
  · intro text
    constructor
    · intro standsIn
      exact Places.orUsual_of_standsIn plain standsIn command
    · intro same
      rw [same]
      exact Places.standsIn_orUsual plain command

end Settings

namespace Service

variable {places : Places} {service : Service}

theorem exists_settings_of_start (started : start places = .ok service) :
    ∃ settings, Settings.load places = .ok settings ∧ service.options = settings.options := by
  rcases Pipeline.bind_eq_ok_iff.mp started with ⟨settings, loaded, made⟩
  rcases Pipeline.bind_eq_ok_iff.mp (Pipeline.mapError_eq_ok_iff.mp made) with ⟨threshold, -, same⟩
  cases same
  exact ⟨settings, Pipeline.mapError_eq_ok_iff.mp loaded, rfl⟩

theorem configures_of_start (plain : places.Plain) (started : start places = .ok service) :
    places.Configures service.options := by
  rcases exists_settings_of_start started with ⟨settings, loaded, options⟩
  rw [options]
  exact Settings.configures_of_load plain loaded

end Service

end DiceTower
