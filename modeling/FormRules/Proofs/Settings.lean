import FormRules.Proofs.Json.Record
import FormRules.Proofs.Text.Split
import FormRules.Settings.Load
import Mathlib.Data.List.DropRight
import Mathlib.Data.String.Basic

/-!
Contract: settings that have passed their check, and what flags do to them.

Owns:
- sets of names as lists in strict order, on which an insertion shows only once;
- the namespaces and extensions that are accepted, and those that are trimmed;
- the settings in force for every document and all flags, and when there are none.

Does not own: how flags are written, and what a run does under its settings.

Trimming and insertion are both done before the check, so flags find the settings
of a document in a form that further trimming and further insertion leave alone.
That is why flags can be applied twice.
-/

namespace FormRules

/-! ## Sets of names -/

theorem pairwise_insertName {name : String} {names : List String}
    (ordered : names.Pairwise (· < ·)) : (insertName name names).Pairwise (· < ·) := by
  induction names with
  | nil => exact List.pairwise_singleton _ _
  | cons head rest inductionHypothesis =>
      obtain ⟨first, others⟩ := List.pairwise_cons.1 ordered
      unfold insertName
      split
      next before =>
        refine List.pairwise_cons.2 ⟨?_, ordered⟩
        rw [List.forall_mem_cons]
        exact ⟨before, fun other member => before.trans (first other member)⟩
      next notBefore =>
        split
        next => exact ordered
        next different =>
          refine List.pairwise_cons.2 ⟨?_, inductionHypothesis others⟩
          intro other member
          rcases mem_insertName.1 member with isName | inRest
          · rw [isName]
            exact lt_of_le_of_ne (not_lt.1 notBefore) (Ne.symm different)
          · exact first other inRest

theorem insertName_of_mem {name : String} {names : List String}
    (ordered : names.Pairwise (· < ·)) (member : name ∈ names) :
    insertName name names = names := by
  induction names with
  | nil => cases member
  | cons head rest inductionHypothesis =>
      obtain ⟨first, others⟩ := List.pairwise_cons.1 ordered
      unfold insertName
      rcases List.mem_cons.1 member with isHead | inRest
      · rw [isHead, if_neg (lt_irrefl head), if_pos rfl]
      · have after := first name inRest
        rw [if_neg (not_lt_of_gt after), if_neg (ne_of_gt after),
          inductionHypothesis others inRest]

section InsertNames

variable {names set : List String}

theorem mem_foldl_insertName {name : String} :
    name ∈ names.foldl (fun set name => insertName name set) set ↔
      name ∈ set ∨ name ∈ names := by
  induction names generalizing set with
  | nil => simp
  | cons head rest inductionHypothesis =>
      rw [List.foldl_cons, inductionHypothesis, mem_insertName, List.mem_cons, or_assoc,
        or_left_comm]

theorem pairwise_foldl_insertName (ordered : set.Pairwise (· < ·)) :
    (names.foldl (fun set name => insertName name set) set).Pairwise (· < ·) := by
  induction names generalizing set with
  | nil => exact ordered
  | cons head rest inductionHypothesis => exact inductionHypothesis (pairwise_insertName ordered)

theorem foldl_insertName_of_subset (ordered : set.Pairwise (· < ·)) (inside : names ⊆ set) :
    names.foldl (fun set name => insertName name set) set = set := by
  induction names with
  | nil => rfl
  | cons head rest inductionHypothesis =>
      obtain ⟨first, others⟩ := List.cons_subset.1 inside
      rw [List.foldl_cons, insertName_of_mem ordered first, inductionHypothesis others]

/-- Names that have been put into a set are put into it again without effect. -/
theorem foldl_insertName_again (ordered : set.Pairwise (· < ·)) :
    names.foldl (fun set name => insertName name set)
        (names.foldl (fun set name => insertName name set) set) =
      names.foldl (fun set name => insertName name set) set :=
  foldl_insertName_of_subset (pairwise_foldl_insertName ordered)
    fun _ member => mem_foldl_insertName.2 (.inr member)

end InsertNames

/-! ## Trimmed texts -/

namespace Text

theorem trimStart_trimStart (unwanted : Char) (text : String) :
    trimStart unwanted (trimStart unwanted text) = trimStart unwanted text := by
  simp only [trimStart, String.toList_ofList, List.dropWhile_idempotent]

theorem trimEnds_trimEnds (unwanted : Char) (text : String) :
    trimEnds unwanted (trimEnds unwanted text) = trimEnds unwanted text := by
  have trimmed (text : String) : trimEnds unwanted text = String.ofList
      (List.rdropWhile (· == unwanted) (text.toList.dropWhile (· == unwanted))) := rfl
  rw [trimmed, trimmed, String.toList_ofList]
  generalize cut : text.toList.dropWhile (· == unwanted) = kept
  -- What is dropped at the end leaves the first character in its place.
  have front : (List.rdropWhile (· == unwanted) kept).dropWhile (· == unwanted) =
      List.rdropWhile (· == unwanted) kept := by
    rw [List.dropWhile_eq_self_iff]
    intro filled
    have begins := List.rdropWhile_prefix (· == unwanted) kept
    have stays : kept.dropWhile (· == unwanted) = kept := by
      rw [← cut, List.dropWhile_idempotent]
    have first := List.dropWhile_eq_self_iff.1 stays (filled.trans_le begins.length_le)
    rwa [begins.getElem filled]
  rw [front, List.rdropWhile_idempotent]

end Text

open FormRules.Text

/-! ## Accepted settings -/

/-- Identifiers with one backslash between neighbours, or nothing. -/
def IsNamespace (name : String) : Prop :=
  name = "" ∨ ∀ segment ∈ splitAt '\\' name, isIdentifier segment = true

def IsExtension (extension : String) : Prop :=
  extension ≠ "" ∧ '.' ∉ extension.toList ∧ '/' ∉ extension.toList ∧ '\\' ∉ extension.toList

instance (name : String) : Decidable (IsNamespace name) :=
  inferInstanceAs (Decidable (_ ∨ _))

instance (extension : String) : Decidable (IsExtension extension) :=
  inferInstanceAs (Decidable (_ ∧ _))

namespace Settings

theorem invalidSegment?_eq_none_iff {name : String} :
    invalidSegment? name = none ↔ IsNamespace name := by
  unfold invalidSegment? IsNamespace
  by_cases empty : name = ""
  · simp [empty]
  · simp [empty]

theorem isBareExtension_iff {extension : String} :
    isBareExtension extension = true ↔ IsExtension extension := by
  have broken : (extension.toList.all fun character => !extensionBreaks.contains character) = true ↔
      '.' ∉ extension.toList ∧ '/' ∉ extension.toList ∧ '\\' ∉ extension.toList := by
    rw [List.all_eq_true]
    constructor
    · intro bare
      refine ⟨?_, ?_, ?_⟩ <;> exact fun member => absurd (bare _ member) (by decide)
    · rintro ⟨dot, slash, backslash⟩ character member
      simp only [extensionBreaks, Bool.not_eq_true', List.contains_eq_mem, List.mem_cons,
        List.not_mem_nil, or_false, decide_eq_false_iff_not]
      rintro (rfl | rfl | rfl)
      exacts [dot member, slash member, backslash member]
  rw [isBareExtension, Bool.and_eq_true, broken, IsExtension]
  simp

/-- Settings are accepted for their namespace and their extension alone. -/
theorem validate_eq_ok_iff {settings : Settings} :
    settings.validate = .ok () ↔
      IsNamespace settings.rootNamespace ∧ IsExtension settings.extension := by
  rw [← invalidSegment?_eq_none_iff, ← isBareExtension_iff]
  unfold validate
  cases invalidSegment? settings.rootNamespace with
  | some segment => simp
  | none =>
      cases isBareExtension settings.extension <;> simp

theorem normalized_eq (settings : Settings) :
    settings.normalized =
      { settings with
        rootNamespace := trimEnds '\\' settings.rootNamespace
        extension := trimStart '.' settings.extension } :=
  rfl

/-- What a check of settings lets through is what it was given. -/
theorem map_validate_eq_ok_iff {settings result : Settings} :
    (settings.validate.map fun _ => settings) = .ok result ↔
      result = settings ∧ settings.validate = .ok () := by
  cases settings.validate with
  | ok => simp [Except.map, eq_comm]
  | error error => simp [Except.map]

theorem exists_map_validate_eq_error_iff {settings : Settings} :
    (∃ error, (settings.validate.map fun _ => settings) = .error error) ↔
      settings.validate ≠ .ok () := by
  cases settings.validate with
  | ok => simp [Except.map]
  | error error => simp [Except.map]

end Settings

/-! ## Settings to start from -/

/-- Both sets of names are in strict order. -/
structure SkipLists.IsOrdered (skip : SkipLists) : Prop where
  tables : skip.tables.Pairwise (· < ·)
  columns : skip.columns.Pairwise (· < ·)

theorem SkipLists.isOrdered_default : ({} : SkipLists).IsOrdered :=
  ⟨by decide, by decide⟩

theorem pairwise_of_nameSet? {value : Json} {names : List String}
    (read : nameSet? value = some names) : names.Pairwise (· < ·) := by
  obtain ⟨written, _, rfl⟩ := Option.map_eq_some_iff.1 read
  exact pairwise_foldl_insertName .nil

theorem SkipLists.isOrdered_of_ofJson? {dialect : Json.Dialect} {value : Json} {skip : SkipLists}
    (read : ofJson? dialect value = some skip) : skip.IsOrdered := by
  simp only [ofJson?, bind, Option.bind_eq_some_iff, pure, Option.some_inj] at read
  obtain ⟨fields, _, tables, readTables, columns, readColumns, rfl⟩ := read
  exact
    { tables := Json.of_withDefault (List.Pairwise (· < ·)) readTables isOrdered_default.tables
        fun _ => pairwise_of_nameSet?
      columns := Json.of_withDefault (List.Pairwise (· < ·)) readColumns isOrdered_default.columns
        fun _ => pairwise_of_nameSet? }

namespace Settings

theorem isOrdered_of_ofJson? {dialect : Json.Dialect} {value : Json} {settings : Settings}
    (read : ofJson? dialect value = some settings) : settings.skip.IsOrdered := by
  simp only [ofJson?, bind, Option.bind_eq_some_iff, pure, Option.some_inj] at read
  obtain ⟨fields, _, _, _, _, _, _, _, _, _, _, _, skip, readSkip, _, _, _, _, _, _, rfl⟩ := read
  exact Json.of_withDefault SkipLists.IsOrdered readSkip SkipLists.isOrdered_default
    fun _ => SkipLists.isOrdered_of_ofJson?

/-- The settings that a document gives, as they stand in it. -/
def read? (text : String) : Option Settings :=
  (Toml.parse? text).bind (ofJson? Toml.dialect)

/-- Settings as they were given, with what a run starts from: the usual ones, or
those of a document after their check. -/
inductive Source : Settings → Except Error Settings → Prop where
  | usual : Source {} (.ok {})
  | document {text : String} {given : Settings} (written : read? text = some given) :
      Source given (parse text)

theorem Source.eq_map {given : Settings} {start : Except Error Settings}
    (source : Source given start) :
    start = given.normalized.validate.map fun _ => given.normalized := by
  cases source with
  | usual => exact (map_validate_eq_ok_iff.2 ⟨rfl, validate_eq_ok_iff.2 (by decide)⟩).symm
  | document written =>
      rw [read?] at written
      rw [parse, written]

theorem Source.isOrdered {given : Settings} {start : Except Error Settings}
    (source : Source given start) : given.skip.IsOrdered := by
  cases source with
  | usual => exact SkipLists.isOrdered_default
  | document written =>
      obtain ⟨value, _, read⟩ := Option.bind_eq_some_iff.1 written
      exact isOrdered_of_ofJson? read

/-- Whatever a run loads has a source: it is the usual settings or what a
document says. -/
theorem exists_source_of_load {tree : FileTree} {asked : Option String} {start : Settings}
    (loaded : load tree asked = .ok start) : ∃ given, Source given (.ok start) := by
  unfold load at loaded
  split at loaded
  next => exact ⟨{}, by cases loaded; exact .usual⟩
  next path found =>
    split at loaded
    next => cases loaded
    next text content =>
      have parsed : parse text = .ok start := by
        cases outcome : parse text with
        | error error => rw [outcome] at loaded; cases loaded
        | ok settings => rw [outcome] at loaded; cases loaded; rfl
      cases written : read? text with
      | none =>
          unfold parse at parsed
          rw [show (Toml.parse? text).bind (ofJson? Toml.dialect) = none from written] at parsed
          cases parsed
      | some given => exact ⟨given, parsed ▸ .document written⟩

/-! ## Settings in force -/

/-- What flags make of given settings, field by field. -/
structure InForce (given : Settings) (overrides : Overrides) (result : Settings) : Prop where
  valid : result.validate = .ok ()
  normal : result.normalized = result
  migrationsDirectory :
    result.migrationsDirectory = overrides.migrations.getD given.migrationsDirectory
  outputDirectory : result.outputDirectory = overrides.output.getD given.outputDirectory
  extension :
    result.extension = trimStart '.' (overrides.extension.getD given.extension)
  format : result.format = overrides.format.getD given.format
  rootNamespace :
    result.rootNamespace = trimEnds '\\' (overrides.rootNamespace.getD given.rootNamespace)
  /-- Each set is the list, in order, of what is in the document or in a flag. -/
  skipOrder : result.skip.IsOrdered
  skippedTables : ∀ name, name ∈ result.skip.tables ↔
    name ∈ given.skip.tables ∨ name ∈ overrides.skipTables
  skippedColumns : ∀ name, name ∈ result.skip.columns ↔
    name ∈ given.skip.columns ∨ name ∈ overrides.skipColumns
  dropUnmapped : result.dropUnmapped = (given.dropUnmapped && !overrides.keepUnmapped)
  atomicWrites : result.atomicWrites = (given.atomicWrites && !overrides.noAtomic)
  onFailure : result.onFailure = if overrides.continueOnError then .proceed else given.onFailure
  dryRun : result.dryRun = overrides.dryRun
  again : result.override overrides = .ok result

section Overriding

variable (given : Settings) (overrides : Overrides)

theorem rootNamespace_overriddenBy :
    (given.normalized.overriddenBy overrides).rootNamespace =
      trimEnds '\\' (overrides.rootNamespace.getD given.rootNamespace) :=
  Option.getD_map _ _ _

theorem extension_overriddenBy :
    (given.normalized.overriddenBy overrides).extension =
      trimStart '.' (overrides.extension.getD given.extension) :=
  Option.getD_map _ _ _

theorem normalized_overriddenBy :
    (given.normalized.overriddenBy overrides).normalized =
      given.normalized.overriddenBy overrides := by
  rw [normalized_eq, rootNamespace_overriddenBy, extension_overriddenBy, trimEnds_trimEnds, trimStart_trimStart,
    ← rootNamespace_overriddenBy, ← extension_overriddenBy]

end Overriding

theorem getD_getD_self {α : Type} (value : Option α) (default : α) :
    value.getD (value.getD default) = value.getD default := by
  cases value <;> rfl

theorem overriddenBy_overriddenBy {settings : Settings} (ordered : settings.skip.IsOrdered)
    (overrides : Overrides) :
    (settings.overriddenBy overrides).overriddenBy overrides = settings.overriddenBy overrides := by
  simp only [overriddenBy, foldl_insertName_again ordered.tables,
    foldl_insertName_again ordered.columns, getD_getD_self, Bool.and_assoc, Bool.and_self]
  cases overrides.continueOnError <;> rfl

theorem validate_overriddenBy_eq_ok_iff {given : Settings} (overrides : Overrides)
    (accepted : given.normalized.validate = .ok ()) :
    (given.normalized.overriddenBy overrides).validate = .ok () ↔
      (∀ name ∈ overrides.rootNamespace, IsNamespace (trimEnds '\\' name)) ∧
        ∀ extension ∈ overrides.extension, IsExtension (trimStart '.' extension) := by
  obtain ⟨namespaceAccepted, extensionAccepted⟩ := validate_eq_ok_iff.1 accepted
  rw [validate_eq_ok_iff, rootNamespace_overriddenBy, extension_overriddenBy]
  refine and_congr ?_ ?_
  · cases overrides.rootNamespace with
    | none => exact iff_of_true namespaceAccepted (by simp)
    | some name => simp
  · cases overrides.extension with
    | none => exact iff_of_true extensionAccepted (by simp)
    | some extension => simp

theorem inForce_of_validate {given : Settings} (ordered : given.skip.IsOrdered)
    (overrides : Overrides)
    (valid : (given.normalized.overriddenBy overrides).validate = .ok ()) :
    InForce given overrides (given.normalized.overriddenBy overrides) where
  valid := valid
  normal := normalized_overriddenBy given overrides
  migrationsDirectory := by rw [overriddenBy, normalized_eq]
  outputDirectory := by rw [overriddenBy, normalized_eq]
  extension := extension_overriddenBy given overrides
  format := by rw [overriddenBy, normalized_eq]
  rootNamespace := rootNamespace_overriddenBy given overrides
  skipOrder := ⟨pairwise_foldl_insertName ordered.tables, pairwise_foldl_insertName ordered.columns⟩
  skippedTables := fun _ => by
    rw [overriddenBy, normalized_eq]
    exact mem_foldl_insertName
  skippedColumns := fun _ => by
    rw [overriddenBy, normalized_eq]
    exact mem_foldl_insertName
  dropUnmapped := by rw [overriddenBy, normalized_eq]
  atomicWrites := by rw [overriddenBy, normalized_eq]
  onFailure := by rw [overriddenBy, normalized_eq]
  dryRun := by rw [overriddenBy, normalized_eq]
  again := by
    have stillOrdered : given.normalized.skip.IsOrdered := by rwa [normalized_eq]
    rw [override, overriddenBy_overriddenBy stillOrdered overrides]
    exact map_validate_eq_ok_iff.2 ⟨rfl, valid⟩

/-- Flags on top of a document, or of the usual settings, fail exactly if a
namespace or an extension is not acceptable after trimming, that of the document
even where a flag replaces it.  Otherwise the settings in force are checked and
trimmed, every one of them is what the flags and the document say, and the same
flags change nothing more. -/
theorem override_source {given : Settings} {start : Except Error Settings}
    (source : Source given start) (overrides : Overrides) :
    let outcome := do (← start).override overrides
    ((∃ error, outcome = .error error) ↔
      ¬ IsNamespace (trimEnds '\\' given.rootNamespace) ∨
      ¬ IsExtension (trimStart '.' given.extension) ∨
      (∃ name ∈ overrides.rootNamespace, ¬ IsNamespace (trimEnds '\\' name)) ∨
      ∃ extension ∈ overrides.extension, ¬ IsExtension (trimStart '.' extension)) ∧
    ∀ settings, outcome = .ok settings → InForce given overrides settings := by
  intro outcome
  have document : given.normalized.validate = .ok () ↔
      IsNamespace (trimEnds '\\' given.rootNamespace) ∧
        IsExtension (trimStart '.' given.extension) :=
    validate_eq_ok_iff
  by_cases accepted : given.normalized.validate = .ok ()
  · have started : outcome = given.normalized.override overrides := by
      show (do (← start).override overrides) = _
      rw [source.eq_map, map_validate_eq_ok_iff.2 ⟨rfl, accepted⟩]
      rfl
    obtain ⟨namespaceAccepted, extensionAccepted⟩ := document.1 accepted
    rw [started, override]
    constructor
    · rw [exists_map_validate_eq_error_iff, Ne, validate_overriddenBy_eq_ok_iff overrides accepted]
      simp only [namespaceAccepted, extensionAccepted, not_true_eq_false, false_or, not_and_or,
        not_forall, exists_prop]
    · intro settings inForce
      obtain ⟨rfl, valid⟩ := map_validate_eq_ok_iff.1 inForce
      exact inForce_of_validate source.isOrdered overrides valid
  · obtain ⟨error, failed⟩ := exists_map_validate_eq_error_iff.2 accepted
    have stopped : outcome = .error error := by
      show (do (← start).override overrides) = _
      rw [source.eq_map, failed]
      rfl
    rw [stopped]
    constructor
    · rw [document, not_and_or] at accepted
      exact ⟨fun _ => or_assoc.1 (.inl accepted), fun _ => ⟨error, rfl⟩⟩
    · intro settings inForce
      cases inForce

/-- Backslashes and dots in excess do no harm in a document or in a flag, and a name
that is in both is skipped once.  But an extension that is not one is refused in a
document, whatever extension a flag asks for. -/
theorem override_source_excess_marks :
    let text := "namespace = '\\\\App\\Forms\\'\nformat = 'json'\n" ++
      "[skip]\ntables = ['jobs', 'cache', 'jobs']\n"
    let given : Settings :=
      { rootNamespace := "\\\\App\\Forms\\", extension := "php", format := .json
        skip := { tables := ["cache", "jobs"] } }
    let overrides : Overrides :=
      { extension := some "..inc", skipTables := ["users", "cache"], dryRun := true }
    Source given (parse text) ∧
    (∃ settings, parseWith text overrides = .ok settings ∧
      InForce given overrides settings) ∧
    ∃ error, parseWith "extension = '.blade.php'" overrides = .error error := by
  intro text given overrides
  obtain ⟨written, isNamespace, isExtension, otherWritten, isNoExtension⟩ :
      read? text = some given ∧ IsNamespace (trimEnds '\\' given.rootNamespace) ∧
      (IsExtension (trimStart '.' given.extension) ∧ IsExtension (trimStart '.' "..inc")) ∧
      read? "extension = '.blade.php'" = some { extension := ".blade.php" } ∧
      ¬ IsExtension (trimStart '.' ".blade.php") := by
    decide +kernel
  have source := Source.document written
  obtain ⟨fails, inForce⟩ := override_source source overrides
  refine ⟨source, ?_, ?_⟩
  · generalize outcome : parseWith _ overrides = result
    cases result with
    | ok settings => exact ⟨settings, rfl, inForce settings outcome⟩
    | error error =>
        rcases fails.1 ⟨error, outcome⟩ with bad | bad | ⟨name, asked, _⟩ | ⟨extension, asked, bad⟩
        · exact absurd isNamespace bad
        · exact absurd isExtension.1 bad
        · cases asked
        · cases asked
          exact absurd isExtension.2 bad
  · exact (override_source (Source.document otherWritten) overrides).1.2 (.inr (.inl isNoExtension))

end Settings

end FormRules
