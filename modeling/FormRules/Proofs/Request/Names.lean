import FormRules.Proofs.Naming.ClassName
import FormRules.Proofs.Request.ClassTokens

/-!
Contract: the namespace and the class name of an accepted table.

Owns:
- the segments of a namespace: those of its root, and the class of the rows;
- the accepted tables whose request class can be declared, exactly.

Does not own: the text of the class.

Accepted settings answer for every segment but the last.  That one is made from
the table name by dropping underscores and changing case, so an accepted table
name alone does not make it an identifier.
-/

namespace FormRules

open FormRules.Text

namespace Request

/-- The segments of the root, without the class. -/
def rootSegments (request : Request) : List String :=
  if request.rootNamespace = "" then [] else splitAt '\\' request.rootNamespace

/-- Cutting the namespace at its backslashes gives the segments of the root, and
the class name as the last one. -/
theorem splitAt_namespaceName (request : Request) :
    splitAt '\\' request.namespaceName = request.rootSegments ++ [request.className] := by
  rw [namespaceName_eq_intercalate]
  refine splitAt_intercalate (List.append_ne_nil_of_right_ne_nil _ (List.cons_ne_nil _ _)) ?_
  intro segment member
  rcases List.mem_append.1 member with inRoot | isClass
  · split at inRoot
    next => cases inRoot
    next => exact notMem_of_mem_splitAt inRoot
  · rw [List.mem_singleton.1 isClass]
    intro backslash
    exact Naming.notMem_marks_className request.table _ backslash (by decide)

end Request

theorem isIdentifier_of_validate {table : Table} (valid : table.validate = .ok ()) :
    isIdentifier table.name = true := by
  unfold Table.validate at valid
  split at valid
  next => cases valid
  next accepted => simpa using accepted

theorem isWordCharacter_of_isIdentifier {name : String} (identifier : isIdentifier name = true) :
    ∀ character ∈ name.toList, isWordCharacter character = true := by
  unfold isIdentifier at identifier
  split at identifier
  next => cases identifier
  next first rest written =>
    rw [Bool.and_eq_true, List.all_eq_true] at identifier
    rw [written, List.forall_mem_cons]
    exact ⟨isWordCharacter_of_isWordStart identifier.1, identifier.2⟩

/-- In an identifier everything but underscores is a letter or a digit. -/
theorem find?_isAlphanumeric_of_isIdentifier {name : String}
    (identifier : isIdentifier name = true) :
    name.toList.find? isAlphanumeric = name.toList.find? (· != '_') := by
  have same : ∀ character ∈ name.toList, isAlphanumeric character = (character != '_') := by
    intro character member
    have word := isWordCharacter_of_isIdentifier identifier character member
    rw [isWordCharacter, Bool.or_eq_true, beq_iff_eq] at word
    by_cases underscore : character = '_'
    · rw [underscore]
      decide
    · rw [word.resolve_right underscore]
      simpa using underscore
  generalize name.toList = characters at same
  induction characters with
  | nil => rfl
  | cons first rest inductionHypothesis =>
      rw [List.forall_mem_cons] at same
      rw [List.find?_cons, List.find?_cons, same.1, inductionHypothesis same.2]

namespace Request

/-- Under accepted settings every segment of the namespace but the last is an
identifier, and the last is the class name.  The request class and the whole
namespace can be declared for exactly those accepted tables whose name has
something besides underscores that starts with a letter, and whose words keep
within letters, digits and underscores when they are capitalised. -/
theorem declarable_iff (settings : Settings) (table : Table)
    (validSettings : settings.validate = .ok ()) (validTable : table.validate = .ok ()) :
    let request := ofTable settings table
    let segments := splitAt '\\' request.namespaceName
    (∀ segment ∈ segments.dropLast, isIdentifier segment = true) ∧
    segments.getLast? = some request.className ∧
    ((isIdentifier request.requestName = true ∧
        ∀ segment ∈ segments, isIdentifier segment = true) ↔
      ∃ first, table.name.toList.find? (· != '_') = some first ∧ isAlphabetic first = true ∧
        Naming.keepsCapitals table.name = true) := by
  intro request segments
  have cut : segments = request.rootSegments ++ [request.className] :=
    splitAt_namespaceName request
  have root : ∀ segment ∈ request.rootSegments, isIdentifier segment = true := by
    intro segment member
    unfold rootSegments at member
    split at member
    next => cases member
    next nonempty =>
      exact Settings.isIdentifier_of_mem_splitAt validSettings nonempty segment member
  have classNamed : isIdentifier request.className = true ↔
      ∃ first, table.name.toList.find? (· != '_') = some first ∧ isAlphabetic first = true ∧
        Naming.keepsCapitals table.name = true := by
    show isIdentifier (Naming.className table.name) = true ↔ _
    rw [Naming.isIdentifier_className,
      find?_isAlphanumeric_of_isIdentifier (isIdentifier_of_validate validTable),
      Bool.and_eq_true, Option.any_eq_true]
    constructor
    · rintro ⟨⟨first, found, letter⟩, kept⟩
      exact ⟨first, found, letter, kept⟩
    · rintro ⟨first, found, letter, kept⟩
      exact ⟨⟨first, found, letter⟩, kept⟩
  refine ⟨?_, ?_, ?_⟩
  · rw [cut, List.dropLast_concat]
    exact root
  · rw [cut, List.getLast?_concat]
  · rw [cut, List.forall_mem_append, List.forall_mem_singleton, ← classNamed]
    exact ⟨fun all => all.2.2, fun named => ⟨isIdentifier_requestName named, root, named⟩⟩

theorem validate_defaultSettings : ({} : Settings).validate = .ok () := by
  obtain ⟨segments, extension⟩ :
      Settings.invalidSegment? ({} : Settings).rootNamespace = none ∧
        Settings.isBareExtension ({} : Settings).extension = true := by
    decide +kernel
  simp only [Settings.validate, segments, extension, if_true]

theorem validate_empty {name : String} (identifier : isIdentifier name = true) :
    (Table.empty name).validate = .ok () := by
  simp [Table.validate, Table.empty, identifier]

/-- Underscores in front of the first letter do no harm. -/
theorem declarable_leading_underscore :
    let settings : Settings := {}
    let table := Table.empty "__tmp_2_users"
    let request := ofTable settings table
    settings.validate = .ok () ∧ table.validate = .ok () ∧
    request.requestName = "Tmp2UserRequest" ∧ isIdentifier request.requestName = true ∧
    ∀ segment ∈ splitAt '\\' request.namespaceName, isIdentifier segment = true := by
  intro settings table request
  obtain ⟨identifier, found, letter, kept, called⟩ : isIdentifier "__tmp_2_users" = true ∧
      "__tmp_2_users".toList.find? (· != '_') = some 't' ∧ isAlphabetic 't' = true ∧
      Naming.keepsCapitals "__tmp_2_users" = true ∧
      Naming.requestName "__tmp_2_users" = "Tmp2UserRequest" := by
    decide +kernel
  have validTable : table.validate = .ok () := validate_empty identifier
  obtain ⟨_, _, declarable⟩ := declarable_iff settings table validate_defaultSettings validTable
  obtain ⟨named, segments⟩ := declarable.2 ⟨'t', found, letter, kept⟩
  exact ⟨validate_defaultSettings, validTable, called, named, segments⟩

/-- Accepted names that leave no class, a class that starts with a digit, and a
class with a mark that is no letter. -/
theorem accepted_not_declarable :
    let settings : Settings := {}
    settings.validate = .ok () ∧
    (∀ name ∈ ["_", "_1", "ǰobs"], (Table.empty name).validate = .ok () ∧
      ∃ segment ∈ splitAt '\\' (ofTable settings (Table.empty name)).namespaceName,
        isIdentifier segment = false) ∧
    (ofTable settings (Table.empty "_")).namespaceName = "App\\Http\\Requests\\" ∧
    isIdentifier (ofTable settings (Table.empty "_1")).requestName = false := by
  intro settings
  obtain ⟨accepted, emptySegment, digitFirst⟩ :
      (∀ name ∈ ["_", "_1", "ǰobs"], isIdentifier name = true ∧
        isIdentifier (Naming.className name) = false) ∧
      (ofTable settings (Table.empty "_")).namespaceName = "App\\Http\\Requests\\" ∧
      isIdentifier (ofTable settings (Table.empty "_1")).requestName = false := by
    decide +kernel
  refine ⟨validate_defaultSettings, ?_, emptySegment, digitFirst⟩
  intro name member
  obtain ⟨identifier, unnamed⟩ := accepted name member
  refine ⟨validate_empty identifier, Naming.className name, ?_, unnamed⟩
  rw [splitAt_namespaceName]
  exact List.mem_append_right _ List.mem_cons_self

end Request

end FormRules
