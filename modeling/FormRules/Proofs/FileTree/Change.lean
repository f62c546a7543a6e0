import FormRules.FileTree

/-!
Contract: what a run can change in a file tree.

Owns:
- what can become of a single place, and of a tree;
- the trees that also keep every link, so that all paths lead on as before;
- trees that hold the same, up to what is in files.

Does not own: the steps of a run.
-/

namespace FormRules

/-! ## One place -/

/-- What can become of a place: it is left alone, a directory is made where
there is nothing, or a file is written over anything but a directory. -/
inductive Entry.Turns : Option Entry → Option Entry → Prop where
  | kept (place : Option Entry) : Turns place place
  | made : Turns none (some .directory)
  | written {place : Option Entry} (content : Content) (free : place ≠ some .directory) :
      Turns place (some (.file content))

namespace Entry.Turns

variable {first middle last : Option Entry}

theorem trans (before : Turns first middle) (after : Turns middle last) : Turns first last := by
  cases before with
  | kept => exact after
  | made =>
      cases after with
      | kept => exact .made
      | written content free => exact absurd rfl free
  | written content free =>
      cases after with
      | kept => exact .written content free
      | written other _ => exact .written other free

theorem of_directory (turns : Turns (some .directory) last) : last = some .directory := by
  cases turns with
  | kept => rfl
  | written content free => exact absurd rfl free

theorem of_file {content : Content} (turns : Turns (some (.file content)) last) :
    ∃ other, last = some (.file other) := by
  cases turns with
  | kept => exact ⟨content, rfl⟩
  | written other _ => exact ⟨other, rfl⟩

/-- No link is made. -/
theorem of_to_link {target : String} (turns : Turns first (some (.link target))) :
    first = some (.link target) := by
  cases turns with
  | kept => rfl

theorem of_to_directory (turns : Turns first (some .directory)) :
    first = some .directory ∨ first = none := by
  cases turns with
  | kept => exact .inl rfl
  | made => exact .inr rfl

theorem of_link {target : String} (turns : Turns (some (.link target)) last) :
    last = some (.link target) ∨ ∃ content, last = some (.file content) := by
  cases turns with
  | kept => exact .inl rfl
  | written content _ => exact .inr ⟨content, rfl⟩

theorem of_to_none (turns : Turns first none) : first = none := by
  cases turns with
  | kept => rfl

theorem of_none (turns : Turns none last) :
    last = none ∨ last = some .directory ∨ ∃ content, last = some (.file content) := by
  cases turns with
  | kept => exact .inl rfl
  | made => exact .inr (.inl rfl)
  | written content _ => exact .inr (.inr ⟨content, rfl⟩)

end Entry.Turns

/-- At most a directory has been made at a place. -/
def Entry.Grown (before after : Option Entry) : Prop :=
  after = before ∨ before = none ∧ after = some .directory

/-- What has been at a place is still there. -/
theorem Entry.Grown.existing {before after : Option Entry} {entry : Entry}
    (grown : Grown before after) (there : before = some entry) : after = some entry := by
  rcases grown with same | ⟨absent, _⟩
  · rw [same, there]
  · rw [there] at absent
    cases absent

theorem Entry.Grown.trans {first middle last : Option Entry} (before : Grown first middle)
    (after : Grown middle last) : Grown first last := by
  rcases after with same | ⟨absent, made⟩
  · rw [same]
    exact before
  · rcases before with same | ⟨_, directory⟩
    · exact .inr ⟨same ▸ absent, made⟩
    · rw [directory] at absent
      cases absent

/-- An entry without what is in a file. -/
def Entry.shape : Entry → Entry
  | .file _ => .file (.text "")
  | entry => entry

theorem Entry.shape_eq_directory {entry : Entry} :
    entry.shape = .directory ↔ entry = .directory := by
  cases entry <;> simp [shape]

theorem Entry.shape_eq_link {entry : Entry} {target : String} :
    entry.shape = .link target ↔ entry = .link target := by
  cases entry <;> simp [shape]

theorem Entry.shape_eq_file {entry : Entry} {content : Content} :
    entry.shape = Entry.shape (.file content) ↔ ∃ other, entry = .file other := by
  cases entry <;> simp [shape]

namespace FileTree

/-! ## Trees -/

/-- The second tree can come of the first in the course of a run. -/
structure Evolves (tree later : FileTree) : Prop where
  workingDirectory : later.workingDirectory = tree.workingDirectory
  turns : ∀ location, Entry.Turns (tree.get? location) (later.get? location)

/-- Every link is still there. -/
def KeepsLinks (tree later : FileTree) : Prop :=
  ∀ location target, tree.get? location = some (.link target) →
    later.get? location = some (.link target)

/-- The second tree has all that the first one has, up to what is in files. -/
structure Extends (tree later : FileTree) : Prop extends Evolves tree later where
  keepsLinks : KeepsLinks tree later

/-- Both trees hold the same, in whatever order they list it. -/
structure Same (tree other : FileTree) : Prop where
  workingDirectory : other.workingDirectory = tree.workingDirectory
  get? : ∀ location, other.get? location = tree.get? location

/-- Both trees hold the same, up to what is in files. -/
structure Alike (tree other : FileTree) : Prop where
  workingDirectory : other.workingDirectory = tree.workingDirectory
  shape : ∀ location,
    (other.get? location).map Entry.shape = (tree.get? location).map Entry.shape

variable {tree middle later : FileTree}

theorem Evolves.refl (tree : FileTree) : Evolves tree tree :=
  ⟨rfl, fun _ => .kept _⟩

theorem Evolves.trans (before : Evolves tree middle) (after : Evolves middle later) :
    Evolves tree later :=
  ⟨after.workingDirectory.trans before.workingDirectory,
    fun location => (before.turns location).trans (after.turns location)⟩

theorem Extends.refl (tree : FileTree) : Extends tree tree :=
  ⟨.refl tree, fun _ _ there => there⟩

theorem Extends.trans (before : Extends tree middle) (after : Extends middle later) :
    Extends tree later :=
  ⟨before.toEvolves.trans after.toEvolves, fun location target there =>
    after.keepsLinks location target (before.keepsLinks location target there)⟩

/-- A link that is there in the end has been there all the time. -/
theorem KeepsLinks.between (keeps : KeepsLinks tree later) (before : Evolves tree middle)
    (after : Evolves middle later) : KeepsLinks tree middle ∧ KeepsLinks middle later := by
  constructor
  · intro location target there
    have turns := after.turns location
    rw [keeps location target there] at turns
    exact turns.of_to_link
  · intro location target there
    have turns := before.turns location
    rw [there] at turns
    exact keeps location target turns.of_to_link

section Places

variable {location : Location}

theorem Evolves.directory (evolves : Evolves tree later)
    (there : tree.get? location = some .directory) :
    later.get? location = some .directory := by
  have turns := evolves.turns location
  rw [there] at turns
  exact turns.of_directory

theorem Evolves.file (evolves : Evolves tree later) {content : Content}
    (there : tree.get? location = some (.file content)) :
    ∃ other, later.get? location = some (.file other) := by
  have turns := evolves.turns location
  rw [there] at turns
  exact turns.of_file

theorem Evolves.link_before (evolves : Evolves tree later) {target : String}
    (there : later.get? location = some (.link target)) :
    tree.get? location = some (.link target) := by
  have turns := evolves.turns location
  rw [there] at turns
  exact turns.of_to_link

theorem Evolves.directory_before (evolves : Evolves tree later)
    (there : later.get? location = some .directory) :
    tree.get? location = some .directory ∨ tree.get? location = none := by
  have turns := evolves.turns location
  rw [there] at turns
  exact turns.of_to_directory

theorem Evolves.link (evolves : Evolves tree later) {target : String}
    (there : tree.get? location = some (.link target)) :
    later.get? location = some (.link target) ∨
      ∃ content, later.get? location = some (.file content) := by
  have turns := evolves.turns location
  rw [there] at turns
  exact turns.of_link

theorem Evolves.none_before (evolves : Evolves tree later)
    (absent : later.get? location = none) : tree.get? location = none := by
  have turns := evolves.turns location
  rw [absent] at turns
  exact turns.of_to_none

/-- What is there is still there, and of the same shape. -/
theorem Extends.existing (extended : Extends tree later) {entry : Entry}
    (there : tree.get? location = some entry) :
    ∃ other, later.get? location = some other ∧ other.shape = entry.shape := by
  cases entry with
  | directory => exact ⟨.directory, extended.directory there, rfl⟩
  | file content =>
      obtain ⟨other, thereLater⟩ := extended.file there
      exact ⟨.file other, thereLater, rfl⟩
  | link target => exact ⟨.link target, extended.keepsLinks location target there, rfl⟩

end Places

/-! ## Single changes -/

theorem get?_put {location : Location} (proper : location ≠ []) (entry : Entry)
    (other : Location) :
    (tree.put location entry).get? other =
      if other = location then some entry else tree.get? other := by
  by_cases same : other = location
  · rw [if_pos same, same, get?_put_self tree entry proper]
  · rw [if_neg same, get?_put_of_ne tree entry same]

/-- Only the root is there without being put there. -/
theorem ne_nil_of_get? {location : Location} (other : tree.get? location ≠ some .directory) :
    location ≠ [] := by
  intro root
  exact other (by rw [get?, if_pos root])

theorem extends_put_directory {location : Location} (absent : tree.get? location = none) :
    Extends tree (tree.put location .directory) := by
  have proper : location ≠ [] := ne_nil_of_get? (by rw [absent]; simp)
  refine ⟨⟨rfl, ?_⟩, ?_⟩
  · intro other
    rw [get?_put proper]
    by_cases same : other = location
    · rw [if_pos same, same, absent]
      exact .made
    · rw [if_neg same]
      exact .kept _
  · intro other target there
    rw [get?_put proper]
    by_cases same : other = location
    · rw [same, absent] at there
      cases there
    · rw [if_neg same]
      exact there

theorem evolves_put_file {location : Location} (free : tree.get? location ≠ some .directory)
    (content : Content) : Evolves tree (tree.put location (.file content)) := by
  refine ⟨rfl, ?_⟩
  intro other
  rw [get?_put (ne_nil_of_get? free)]
  by_cases same : other = location
  · rw [if_pos same, same]
    exact .written content free
  · rw [if_neg same]
    exact .kept _

/-! ## Trees that differ in files only -/

namespace Alike

variable {other : FileTree}

theorem refl (tree : FileTree) : Alike tree tree :=
  ⟨rfl, fun _ => rfl⟩

theorem symm (alike : Alike tree other) : Alike other tree :=
  ⟨alike.workingDirectory.symm, fun location => (alike.shape location).symm⟩

theorem toExtends (alike : Alike tree other) : Extends tree other := by
  refine ⟨⟨alike.workingDirectory, ?_⟩, ?_⟩
  · intro location
    have shape := alike.shape location
    cases there : tree.get? location with
    | none =>
        rw [there] at shape
        rw [Option.map_eq_none_iff.1 shape]
        exact .kept none
    | some entry =>
        rw [there] at shape
        obtain ⟨later, thereLater, same⟩ := Option.map_eq_some_iff.1 shape
        rw [thereLater]
        cases entry with
        | directory =>
            rw [Entry.shape_eq_directory.1 same]
            exact .kept _
        | link target =>
            rw [Entry.shape_eq_link.1 same]
            exact .kept _
        | file content =>
            obtain ⟨rewritten, rfl⟩ := Entry.shape_eq_file.1 same
            exact .written rewritten (by simp)
  · intro location target there
    have shape := alike.shape location
    rw [there] at shape
    obtain ⟨later, thereLater, same⟩ := Option.map_eq_some_iff.1 shape
    rw [thereLater, Entry.shape_eq_link.1 same]

/-- Writing a file once more changes what is in it. -/
theorem put_file (alike : Alike tree other) {location : Location} {old : Content}
    (there : other.get? location = some (.file old)) (content : Content) :
    Alike tree (other.put location (.file content)) := by
  have proper : location ≠ [] := by
    rintro rfl
    simp [get?] at there
  refine ⟨alike.workingDirectory, ?_⟩
  intro place
  rw [get?_put proper, ← alike.shape place]
  by_cases same : place = location
  · rw [if_pos same, same, there]
    rfl
  · rw [if_neg same]

end Alike

end FileTree

end FormRules
