import Intake.Config.Environment
import Intake.Proofs.LetterCase
import Mathlib.Data.List.TakeWhile
import Mathlib.Tactic.SplitIfs

/-!
# Settings are read up to padding and the case of ASCII letters

A raw setting says a word if it is the word between blanks, with ASCII letters in any case.  What is
loaded from the environment depends on nothing but the setting in question, and of a truth value or
a log format on nothing but the word it says; a setting that says none of the known words is logged
as it stands.  A log filter is kept as it stands.
-/

namespace Intake

namespace Text

/-! ## Padding -/

theorem not_blank_of_between {c : Char} (low : 65 ≤ c.toNat) (high : c.toNat ≤ 122) :
    isBlank c = false := by
  rw [← Bool.not_eq_true]
  simp only [isBlank, Bool.or_eq_true, Bool.and_eq_true, decide_eq_true_eq, beq_iff_eq]
  omega

theorem isBlank_toLower (c : Char) : isBlank c.toLower = isBlank c := by
  by_cases upper : c.isUpper = true
  · have bounds := isUpper_iff.mp upper
    have shifted := toNat_toLower upper
    rw [not_blank_of_between (by omega) (by omega), not_blank_of_between (by omega) (by omega)]
  · rw [toLower_of_not_isUpper upper]

/-- What is trimmed are blanks. -/
theorem exists_padding (s : List Char) :
    ∃ before after, s = before ++ (trim s ++ after) ∧ (∀ c ∈ before, isBlank c = true) ∧
      ∀ c ∈ after, isBlank c = true := by
  have blank (t : List Char) : ∀ c ∈ t.takeWhile isBlank, isBlank c = true :=
    List.all_eq_true.mp List.all_takeWhile
  refine ⟨s.takeWhile isBlank, ((s.dropWhile isBlank).reverse.takeWhile isBlank).reverse,
    ?_, blank s, ?_⟩
  · rw [trim, ← List.reverse_append, List.takeWhile_append_dropWhile, List.reverse_reverse,
      List.takeWhile_append_dropWhile]
  · intro c mem
    exact blank _ c (List.mem_reverse.mp mem)

theorem trim_padded {before after : List Char} (blank_before : ∀ c ∈ before, isBlank c = true)
    (blank_after : ∀ c ∈ after, isBlank c = true) (s : List Char) :
    trim (before ++ (s ++ after)) = trim s := by
  have blank_reversed : ∀ c ∈ after.reverse, isBlank c = true :=
    fun c mem => blank_after c (List.mem_reverse.mp mem)
  rw [trim, trim, List.dropWhile_append_of_pos blank_before, List.dropWhile_append]
  split
  · next empty =>
    rw [List.isEmpty_iff.mp empty, List.dropWhile_eq_nil_iff.mpr blank_after]
  · rw [List.reverse_append, List.dropWhile_append_of_pos blank_reversed]

theorem trim_map_toLower (s : List Char) :
    trim (s.map Char.toLower) = (trim s).map Char.toLower := by
  have blank : isBlank ∘ Char.toLower = isBlank := funext isBlank_toLower
  simp only [trim, List.dropWhile_map, ← List.map_reverse, blank]

end Text

namespace Config

open Text

/-- A raw setting is another one, in other case, between blanks. -/
def Respells (other raw : String) : Prop :=
  ∃ before spelt after : List Char, other.toList = before ++ (spelt ++ after) ∧
    (∀ c ∈ before, isBlank c = true) ∧ (∀ c ∈ after, isBlank c = true) ∧
    List.Forall₂ Recased raw.toList spelt

theorem Respells.plainForm_eq {other raw : String} (respells : Respells other raw) :
    plainForm other = plainForm raw := by
  obtain ⟨before, spelt, after, stands, blank_before, blank_after, recased⟩ := respells
  rw [plainForm, plainForm, stands, trim_padded blank_before blank_after, ← trim_map_toLower,
    ← trim_map_toLower, forall₂_recased_iff.mp recased]

/-- A raw setting respells a word without padding exactly if its plain form is that of the word. -/
theorem respells_iff {raw word : String} (bare : trim word.toList = word.toList) :
    Respells raw word ↔ plainForm raw = plainForm word := by
  refine ⟨Respells.plainForm_eq, fun equal => ?_⟩
  obtain ⟨before, after, stands, blank_before, blank_after⟩ := exists_padding raw.toList
  refine ⟨before, trim raw.toList, after, stands, blank_before, blank_after, ?_⟩
  rw [plainForm, plainForm, bare] at equal
  exact forall₂_recased_iff.mpr equal.symm

/-- Nothing beyond ASCII stands for a letter of a word in ASCII. -/
theorem Respells.ascii {raw word : String} (respells : Respells raw word)
    (ascii : (word.toList.all fun c => c.toNat < 0x80) = true) :
    ∀ c ∈ raw.toList, isBlank c = true ∨ c.toNat < 0x80 := by
  simp only [List.all_eq_true, decide_eq_true_eq] at ascii
  obtain ⟨before, spelt, after, stands, blank_before, blank_after, recased⟩ := respells
  have spelt_ascii : ∀ c ∈ spelt, c.toNat < 0x80 := by
    clear stands
    generalize word.toList = letters at ascii recased
    induction recased with
    | nil => exact fun c mem => nomatch mem
    | cons first _ ih =>
        obtain ⟨first_ascii, rest_ascii⟩ := List.forall_mem_cons.mp ascii
        exact List.forall_mem_cons.mpr ⟨first.lt_of_lt first_ascii, ih rest_ascii⟩
  intro c mem
  rw [stands, List.mem_append, List.mem_append] at mem
  rcases mem with padding | inside | padding
  · exact .inl (blank_before c padding)
  · exact .inr (spelt_ascii c inside)
  · exact .inl (blank_after c padding)

/-! ## Truth values -/

/-- The words for true. -/
def affirmations : List String := ["true", "1", "yes"]

/-- The words for false. -/
def denials : List String := ["false", "0", "no"]

/-- A raw setting says one of some words. -/
def Says (raw : String) (words : List String) : Prop :=
  ∃ word ∈ words, Respells raw word

theorem says_append_iff {raw : String} {words others : List String} :
    Says raw (words ++ others) ↔ Says raw words ∨ Says raw others := by
  simp only [Says, List.mem_append, or_and_right, exists_or]

/-- The words are without padding, in lower case and in ASCII. -/
theorem words_plain : ∀ word ∈ affirmations ++ denials, trim word.toList = word.toList ∧
    plainForm word = word.toList ∧ (word.toList.all fun c => c.toNat < 0x80) = true := by decide

theorem any_plainForm_iff {raw : String} {words : List String}
    (known : words ⊆ affirmations ++ denials) :
    words.any (fun word => word.toList == plainForm raw) = true ↔ Says raw words := by
  rw [List.any_eq_true]
  apply exists_congr
  intro word
  apply and_congr_right
  intro mem
  obtain ⟨bare, plain, -⟩ := words_plain word (known mem)
  rw [respells_iff bare, plain, beq_iff_eq, eq_comm]

theorem parseBool_eq (raw : String) :
    parseBool raw =
      if affirmations.any fun word => word.toList == plainForm raw then some true
      else if denials.any fun word => word.toList == plainForm raw then some false
      else none := rfl

theorem parseBool_eq_some_true_iff {raw : String} :
    parseBool raw = some true ↔ Says raw affirmations := by
  rw [← any_plainForm_iff (List.subset_append_left _ _), parseBool_eq]
  split_ifs with affirms denies
  · exact iff_of_true rfl affirms
  · exact iff_of_false nofun affirms
  · exact iff_of_false nofun affirms

theorem parseBool_eq_none_iff {raw : String} :
    parseBool raw = none ↔ ¬ Says raw (affirmations ++ denials) := by
  rw [says_append_iff, ← any_plainForm_iff (List.subset_append_left _ _),
    ← any_plainForm_iff (List.subset_append_right _ _), parseBool_eq]
  split_ifs with affirms denies
  · exact iff_of_false nofun (not_not_intro (.inl affirms))
  · exact iff_of_false nofun (not_not_intro (.inr denies))
  · exact iff_of_true rfl (not_or.mpr ⟨affirms, denies⟩)

/-! ## What is loaded -/

/-- What is loaded where the setting for undeclared members has a raw value. -/
structure LoadsFrom (raw : String) (loaded : Logged Validator) : Prop where
  forbids_iff : loaded.value.forbidUnknown = true ↔ Says raw ["true", "1", "yes"]
  silent_iff : loaded.events = [] ↔ Says raw ["true", "1", "yes", "false", "0", "no"]
  warns : ¬ Says raw ["true", "1", "yes", "false", "0", "no"] →
    loaded.value = {} ∧ ∃ event, loaded.events = [event] ∧ event.level = .warn ∧
      event.details =
        [("key", .str "VALIDATION_FORBID_UNKNOWN_FIELDS"), ("value", .str raw)]
  ascii : loaded.events = [] → ∀ c ∈ raw.toList, isBlank c = true ∨ c.toNat < 0x80

theorem loadValidator_of_known {env : Environment} {raw : String} {value : Bool}
    (bound : env forbidUnknownKey = some raw) (parsed : parseBool raw = some value) :
    loadValidator env = ⟨⟨value⟩, []⟩ := by
  simp only [loadValidator, bound, parsed]

theorem loadValidator_of_unknown {env : Environment} {raw : String}
    (bound : env forbidUnknownKey = some raw) (parsed : parseBool raw = none) :
    loadValidator env = ⟨{}, [.unrecognisedBoolean forbidUnknownKey raw]⟩ := by
  simp only [loadValidator, bound, parsed]

theorem loadsFrom_loadValidator {env : Environment} {raw : String}
    (bound : env forbidUnknownKey = some raw) : LoadsFrom raw (loadValidator env) := by
  have affirms_iff : parseBool raw = some true ↔ Says raw affirmations := parseBool_eq_some_true_iff
  have unknown_iff : parseBool raw = none ↔ ¬ Says raw (affirmations ++ denials) :=
    parseBool_eq_none_iff
  have ascii : Says raw (affirmations ++ denials) →
      ∀ c ∈ raw.toList, isBlank c = true ∨ c.toNat < 0x80 := by
    rintro ⟨word, mem, respells⟩
    exact respells.ascii (words_plain word mem).2.2
  cases parsed : parseBool raw with
  | some value =>
      rw [loadValidator_of_known bound parsed]
      rw [parsed] at affirms_iff unknown_iff
      have known : Says raw (affirmations ++ denials) := by
        simpa using unknown_iff
      refine ⟨?_, ?_, ?_, ?_⟩
      · exact Option.some_inj.symm.trans affirms_iff
      · exact iff_of_true rfl known
      · exact fun unknown => absurd known unknown
      · exact fun _ => ascii known
  | none =>
      rw [loadValidator_of_unknown bound parsed]
      rw [parsed] at affirms_iff unknown_iff
      have unknown := unknown_iff.mp rfl
      refine ⟨?_, ?_, ?_, ?_⟩
      · exact iff_of_false nofun fun affirms => nomatch affirms_iff.mpr affirms
      · exact iff_of_false nofun unknown
      · exact fun _ => ⟨rfl, _, rfl, rfl, rfl⟩
      · exact nofun

/-- The events and the validator do not depend on padding nor on the case of letters, but for the
raw value in the warning. -/
theorem loadValidator_respelt {env other : Environment} {raw spelt : String}
    (respells : Respells spelt raw) (bound : env forbidUnknownKey = some raw)
    (other_bound : other forbidUnknownKey = some spelt) :
    (loadValidator env).value = (loadValidator other).value ∧
      ((loadValidator env).events = [] ↔ (loadValidator other).events = []) := by
  have parsed : parseBool spelt = parseBool raw := by
    rw [parseBool_eq, parseBool_eq, respells.plainForm_eq]
  cases raw_parsed : parseBool raw with
  | some value =>
      rw [loadValidator_of_known bound raw_parsed,
        loadValidator_of_known other_bound (parsed.trans raw_parsed)]
      exact ⟨rfl, Iff.rfl⟩
  | none =>
      rw [loadValidator_of_unknown bound raw_parsed,
        loadValidator_of_unknown other_bound (parsed.trans raw_parsed)]
      exact ⟨rfl, iff_of_false nofun nofun⟩

theorem json_eq_false_iff {env : Environment} :
    (loadLogging env).json = false ↔
      ∃ raw, env formatKey = some raw ∧ Respells raw "pretty" := by
  have bare : trim "pretty".toList = "pretty".toList := by decide
  have plain : plainForm "pretty" = "pretty".toList := by decide
  simp only [loadLogging, respells_iff bare, plain]
  cases env formatKey with
  | none => simp
  | some raw => simp

theorem filter_of_blank {env : Environment} {raw : String} (bound : env filterKey = some raw)
    (blank : ∀ c ∈ raw.toList, isBlank c = true) : (loadLogging env).filter = "info" := by
  have all_blank : raw.toList.all isBlank = true := List.all_eq_true.mpr blank
  simp only [loadLogging, bound, Option.filter_some, all_blank]
  rfl

theorem filter_of_not_blank {env : Environment} {raw : String} (bound : env filterKey = some raw)
    (shown : ∃ c ∈ raw.toList, isBlank c = false) : (loadLogging env).filter = raw := by
  obtain ⟨c, mem, not_blank⟩ := shown
  have not_all : raw.toList.all isBlank = false :=
    List.all_eq_false.mpr ⟨c, mem, Bool.eq_false_iff.mp not_blank⟩
  simp only [loadLogging, bound, Option.filter_some, not_all]
  rfl

/-- What is loaded depends on the setting in question alone, and neither on the padding of a truth
value or a log format nor on the case of its ASCII letters.  Undeclared members are forbidden if the
setting says one of the words for true; a setting that says no known word is logged as it stands,
once, and the default is taken.  Logs are no JSON if the format says `pretty`, and the filter is the
setting as it stands, unless that is absent or blank. -/
theorem loads_exactly :
    (∀ env other : Environment,
      (env "VALIDATION_FORBID_UNKNOWN_FIELDS" = other "VALIDATION_FORBID_UNKNOWN_FIELDS" →
        loadValidator env = loadValidator other) ∧
      (env "RUST_LOG" = other "RUST_LOG" →
        (loadLogging env).filter = (loadLogging other).filter) ∧
      (env "LOG_FORMAT" = other "LOG_FORMAT" →
        (loadLogging env).json = (loadLogging other).json)) ∧
    (∀ (env other : Environment) (raw spelt : String), Respells spelt raw →
      (env "VALIDATION_FORBID_UNKNOWN_FIELDS" = some raw →
        other "VALIDATION_FORBID_UNKNOWN_FIELDS" = some spelt →
        (loadValidator env).value = (loadValidator other).value ∧
          ((loadValidator env).events = [] ↔ (loadValidator other).events = [])) ∧
      (env "LOG_FORMAT" = some raw → other "LOG_FORMAT" = some spelt →
        (loadLogging env).json = (loadLogging other).json)) ∧
    (∀ env : Environment,
      (env "VALIDATION_FORBID_UNKNOWN_FIELDS" = none → loadValidator env = ⟨{}, []⟩) ∧
      ∀ raw, env "VALIDATION_FORBID_UNKNOWN_FIELDS" = some raw →
        LoadsFrom raw (loadValidator env)) ∧
    (∀ env : Environment,
      ((loadLogging env).json = false ↔
        ∃ raw, env "LOG_FORMAT" = some raw ∧ Respells raw "pretty") ∧
      ∀ raw, env "LOG_FORMAT" = some raw → (loadLogging env).json = false →
        ∀ c ∈ raw.toList, isBlank c = true ∨ c.toNat < 0x80) ∧
    ∀ env : Environment,
      (env "RUST_LOG" = none → (loadLogging env).filter = "info") ∧
      ∀ raw, env "RUST_LOG" = some raw →
        ((∀ c ∈ raw.toList, isBlank c = true) → (loadLogging env).filter = "info") ∧
        ((∃ c ∈ raw.toList, isBlank c = false) → (loadLogging env).filter = raw) := by
  refine ⟨fun env other => ⟨?_, ?_, ?_⟩, fun env other raw spelt respells => ⟨?_, ?_⟩,
    fun env => ⟨?_, ?_⟩, fun env => ⟨json_eq_false_iff, ?_⟩, fun env => ⟨?_, ?_⟩⟩
  · intro same
    simp only [loadValidator, forbidUnknownKey, same]
  · intro same
    simp only [loadLogging, filterKey, same]
  · intro same
    simp only [loadLogging, formatKey, same]
  · exact loadValidator_respelt respells
  · intro bound other_bound
    simp only [loadLogging, formatKey, bound, other_bound, respells.plainForm_eq]
  · intro unbound
    simp only [loadValidator, forbidUnknownKey, unbound]
  · intro raw bound
    exact loadsFrom_loadValidator bound
  · intro raw bound pretty
    obtain ⟨found, found_bound, respells⟩ := json_eq_false_iff.mp pretty
    obtain rfl := Option.some.inj (bound.symm.trans found_bound)
    exact respells.ascii (by decide)
  · intro unbound
    simp only [loadLogging, filterKey, unbound]
    rfl
  · intro raw bound
    exact ⟨filter_of_blank bound, filter_of_not_blank bound⟩

/-- An environment with a padded word for true, a log format in capitals and a filter between
blanks. -/
def padded (key : String) : Option String :=
  if key = "VALIDATION_FORBID_UNKNOWN_FIELDS" then some "\u3000\tYeS\n"
  else if key = "LOG_FORMAT" then some " PRETTY"
  else if key = "RUST_LOG" then some " intake=debug "
  else none

/-- An environment with a long s in the place of the last letter of a word for true, and a blank
filter. -/
def misspelt (key : String) : Option String :=
  if key = "VALIDATION_FORBID_UNKNOWN_FIELDS" then some "ye\u017F"
  else if key = "LOG_FORMAT" then some "pretty"
  else if key = "RUST_LOG" then some "\u00A0"
  else none

/-- A padded word for true forbids undeclared members, a misspelt one is logged; the format does not
depend on its spelling; a filter keeps its blanks unless there is nothing else. -/
theorem loads_exactly_padded :
    ((loadValidator padded).value.forbidUnknown = true ∧ (loadValidator padded).events = []) ∧
    (loadValidator misspelt).value = {} ∧ (loadValidator misspelt).events ≠ [] ∧
    (loadLogging padded).json = (loadLogging misspelt).json ∧
    (loadLogging padded).filter = " intake=debug " ∧ (loadLogging misspelt).filter = "info" := by
  obtain ⟨-, respelt, validators, -, filters⟩ := loads_exactly
  have yes : Respells "\u3000\tYeS\n" "yes" := (respells_iff rfl).mpr rfl
  have pretty : Respells " PRETTY" "pretty" := (respells_iff rfl).mpr rfl
  have unknown : ¬ Says "ye\u017F" ["true", "1", "yes", "false", "0", "no"] :=
    parseBool_eq_none_iff.mp rfl
  have loaded := (validators padded).2 "\u3000\tYeS\n" rfl
  have warned := (validators misspelt).2 "ye\u017F" rfl
  have filter_blank : ∀ c ∈ "\u00A0".toList, isBlank c = true := List.all_eq_true.mp rfl
  have filter_shown : ∃ c ∈ " intake=debug ".toList, isBlank c = false :=
    ⟨'i', by decide, rfl⟩
  refine ⟨⟨?_, ?_⟩, (warned.warns unknown).1, ?_, ?_, ?_, ?_⟩
  · exact loaded.forbids_iff.mpr ⟨"yes", by decide, yes⟩
  · exact loaded.silent_iff.mpr ⟨"yes", by decide, yes⟩
  · exact fun silent => unknown (warned.silent_iff.mp silent)
  · exact ((respelt misspelt padded "pretty" " PRETTY" pretty).2 rfl rfl).symm
  · exact ((filters padded).2 " intake=debug " rfl).2 filter_shown
  · exact ((filters misspelt).2 "\u00A0" rfl).1 filter_blank

end Config

end Intake
