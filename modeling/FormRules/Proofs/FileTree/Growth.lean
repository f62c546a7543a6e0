import FormRules.Proofs.FileTree.Find

/-!
Contract: the trees that a file system can hold, and trees that grow by
directories.

Owns:
- the places that an entry can be put at;
- well-formed trees, where every entry is at such a place;
- growth, one directory after the other;
- trees without links.

Does not own: which directories a path calls for.
-/

namespace FormRules

/-- A name that an entry of a directory can have. -/
def Route.IsProper (name : String) : Prop :=
  name ≠ "" ∧ name ≠ "." ∧ name ≠ ".." ∧ '/' ∉ name.toList

instance (name : String) : Decidable (Route.IsProper name) :=
  inferInstanceAs (Decidable (_ ∧ _))

theorem Route.whole_of_mem_names {path name : String} (member : name ∈ (ofText path).names) :
    name ≠ "" ∧ '/' ∉ name.toList := by
  obtain ⟨piece, filled⟩ := List.mem_filter.1 member
  exact ⟨by simpa using filled, Text.notMem_of_mem_splitAt piece⟩

theorem Route.whole_of_mem_through {path name : String}
    (member : name ∈ (ofText path).through) : name ≠ "" ∧ '/' ∉ name.toList := by
  rw [through] at member
  split at member
  · rcases List.mem_append.1 member with inside | last
    · exact whole_of_mem_names inside
    · rw [List.mem_singleton.1 last]
      decide
  · exact whole_of_mem_names member

namespace FileTree

/-- A proper name in a directory. -/
def IsPlace (tree : FileTree) (location : Location) : Prop :=
  ∃ directory name, location = directory ++ [name] ∧ tree.get? directory = some .directory ∧
    Route.IsProper name

/-- Every entry is at a place of its own, and the working directory is
there. -/
structure WellFormed (tree : FileTree) : Prop where
  distinct : (tree.entries.map Prod.fst).Nodup
  placed : ∀ item ∈ tree.entries, tree.IsPlace item.1
  started : tree.get? tree.workingDirectory = some .directory

theorem isPlace_iff {tree : FileTree} {location : Location} : tree.IsPlace location ↔
    tree.get? location.dropLast = some .directory ∧
      ∃ name ∈ location.getLast?, Route.IsProper name := by
  constructor
  · rintro ⟨directory, name, rfl, above, proper⟩
    rw [List.dropLast_concat, List.getLast?_concat]
    exact ⟨above, name, rfl, proper⟩
  · rintro ⟨above, name, isLast, proper⟩
    obtain ⟨directory, rfl⟩ := List.getLast?_eq_some_iff.1 isLast
    rw [List.dropLast_concat] at above
    exact ⟨directory, name, rfl, above, proper⟩

instance (tree : FileTree) (location : Location) : Decidable (tree.IsPlace location) :=
  decidable_of_iff' _ isPlace_iff

instance (tree : FileTree) : Decidable tree.WellFormed :=
  decidable_of_iff ((tree.entries.map Prod.fst).Nodup ∧
      (∀ item ∈ tree.entries, tree.IsPlace item.1) ∧
      tree.get? tree.workingDirectory = some .directory)
    ⟨fun ⟨distinct, placed, started⟩ => ⟨distinct, placed, started⟩,
      fun formed => ⟨formed.distinct, formed.placed, formed.started⟩⟩

/-- The second tree comes of the first one by directories, each made at a free
place. -/
inductive Grows (tree : FileTree) : FileTree → Prop where
  | refl : Grows tree tree
  | made {middle : FileTree} (before : Grows tree middle) {location : Location}
      (absent : middle.get? location = none) (place : middle.IsPlace location) :
      Grows tree (middle.put location .directory)

variable {tree middle later : FileTree} {location : Location}

theorem ne_nil_of_isPlace (place : tree.IsPlace location) : location ≠ [] := by
  obtain ⟨directory, name, rfl, _, _⟩ := place
  simp

/-- The free name that a walk ends at is a place. -/
theorem isPlace_of_vacant {followLast : Bool} {links : Nat} {names : List String}
    {directory : Location} {name : String}
    (walked : tree.walkFrom followLast links location names = .ok (.vacant directory name))
    (whole : ∀ name ∈ names, name ≠ "" ∧ '/' ∉ name.toList) :
    tree.IsPlace (directory ++ [name]) := by
  have free := passage_of_vacant walked
  have there : tree.get? directory = some .directory :=
    directory_of_passage fun fault refused => by rw [free] at refused; cases refused
  obtain ⟨_, notDot, notUp⟩ := free_of_passage free
  suffices nameWhole : name ≠ "" ∧ '/' ∉ name.toList from
    ⟨directory, name, rfl, there, nameWhole.1, notDot, notUp, nameWhole.2⟩
  clear free there notDot notUp
  induction links, location, names using walk_induction tree with
  | nil links location =>
      rw [walkFrom_nil] at walked
      cases there : tree.get? location <;> simp [there] at walked
  | cons links location first rest onward byLink =>
      have restWhole : ∀ name ∈ rest, name ≠ "" ∧ '/' ∉ name.toList :=
        fun name member => whole name (List.mem_cons_of_mem first member)
      rw [walkFrom_cons] at walked
      cases passed : tree.passage location first with
      | refused fault => simp [passed] at walked
      | free =>
          simp only [passed] at walked
          split at walked
          · cases walked
            exact whole name List.mem_cons_self
          · cases walked
      | onward next =>
          simp only [passed] at walked
          exact onward next passed walked restWhole
      | link target =>
          simp only [passed] at walked
          split at walked
          · cases walked
          · cases links with
            | zero => cases walked
            | succ fewer =>
                apply byLink target fewer passed rfl walked
                intro name member
                rcases List.mem_append.1 member with inTarget | inRest
                · exact Route.whole_of_mem_through inTarget
                · exact restWhole name inRest

/-! ## Well-formed trees -/

theorem mem_entries_of_get? {entry : Entry} (there : tree.get? location = some entry)
    (proper : location ≠ []) : (location, entry) ∈ tree.entries := by
  rw [get?, if_neg proper, List.lookup_eq_some_iff] at there
  obtain ⟨before, after, split, _⟩ := there
  rw [split]
  simp

namespace WellFormed

variable (formed : tree.WellFormed)

include formed

theorem isPlace {entry : Entry} (there : tree.get? location = some entry)
    (proper : location ≠ []) : tree.IsPlace location :=
  formed.placed _ (mem_entries_of_get? there proper)

/-- There is nothing below a place where there is no directory. -/
theorem absent_below (other : tree.get? location ≠ some .directory) (name : String) :
    tree.get? (location ++ [name]) = none := by
  rw [Option.eq_none_iff_forall_ne_some]
  intro entry there
  obtain ⟨directory, last, split, above, _⟩ := formed.isPlace there (by simp)
  rw [(List.append_inj' split rfl).1] at other
  exact other above

/-- An entry may be put at any place that holds no directory. -/
theorem put (place : tree.IsPlace location) (free : tree.get? location ≠ some .directory)
    (entry : Entry) : (tree.put location entry).WellFormed := by
  have keepsDirectories : ∀ other, tree.get? other = some .directory →
      (tree.put location entry).get? other = some .directory := by
    intro other there
    have different : other ≠ location := by
      rintro rfl
      exact free there
    rw [get?_put_of_ne tree entry different, there]
  have stays : ∀ other, tree.IsPlace other → (tree.put location entry).IsPlace other := by
    rintro other ⟨directory, name, rfl, there, proper⟩
    exact ⟨directory, name, rfl, keepsDirectories directory there, proper⟩
  refine ⟨?_, ?_, keepsDirectories _ formed.started⟩
  · show (location :: (tree.entries.filter _).map Prod.fst).Nodup
    rw [List.nodup_cons]
    constructor
    · intro member
      obtain ⟨item, kept, same⟩ := List.mem_map.1 member
      have different := (List.mem_filter.1 kept).2
      rw [same] at different
      simp at different
    · exact formed.distinct.sublist (List.filter_sublist.map Prod.fst)
  · intro item member
    rcases List.mem_cons.1 member with rfl | kept
    · exact stays location place
    · exact stays item.1 (formed.placed item (List.mem_filter.1 kept).1)

end WellFormed

/-! ## Growth -/

namespace Grows

theorem trans (before : Grows tree middle) (after : Grows middle later) : Grows tree later := by
  induction after with
  | refl => exact before
  | made _ absent place inductionHypothesis => exact .made inductionHypothesis absent place

theorem toExtends (grown : Grows tree later) : Extends tree later := by
  induction grown with
  | refl => exact .refl tree
  | made _ absent _ inductionHypothesis =>
      exact inductionHypothesis.trans (extends_put_directory absent)

theorem wellFormed (grown : Grows tree later) (formed : tree.WellFormed) : later.WellFormed := by
  induction grown with
  | refl => exact formed
  | made _ absent place inductionHypothesis =>
      exact inductionHypothesis.put place (by rw [absent]; simp) .directory

/-- Only a directory is new. -/
theorem get? (grown : Grows tree later) (location : Location) :
    Entry.Grown (tree.get? location) (later.get? location) := by
  induction grown with
  | refl => exact .inl rfl
  | @made middle before made absent place inductionHypothesis =>
      rw [get?_put (ne_nil_of_isPlace place)]
      by_cases same : location = made
      · rw [if_pos same, same]
        exact .inr ⟨before.toExtends.none_before absent, rfl⟩
      · rw [if_neg same]
        exact inductionHypothesis

end Grows

/-! ## Trees without links -/

/-- There are only files and directories. -/
def HasNoLinks (tree : FileTree) : Prop :=
  ∀ location target, tree.get? location ≠ some (.link target)

theorem hasNoLinks_of_entries (none : ∀ item ∈ tree.entries, ∀ target, item.2 ≠ .link target) :
    tree.HasNoLinks := by
  intro location target there
  have proper : location ≠ [] := ne_nil_of_get? (by rw [there]; simp)
  exact none _ (mem_entries_of_get? there proper) target rfl

namespace HasNoLinks

variable (noLinks : tree.HasNoLinks)

include noLinks

theorem evolves (evolves : Evolves tree later) : later.HasNoLinks :=
  fun location target there => noLinks location target (evolves.link_before there)

theorem grows (grown : Grows tree later) : later.HasNoLinks :=
  noLinks.evolves grown.toExtends.toEvolves

theorem keepsLinks (other : FileTree) : KeepsLinks tree other :=
  fun location target there => absurd there (noLinks location target)

theorem own_ne_link (path : String) (location : Location) (target : String) :
    tree.own path ≠ .ok (.existing location (.link target)) := by
  intro found
  rw [own_of_accepted (accepted_of_own found), walk_eq] at found
  exact noLinks location target (get?_of_existing found)

theorem isLink_eq_false (path : String) : tree.isLink path = false := by
  rw [isLink]
  split
  next location target found => exact absurd found (noLinks.own_ne_link path location target)
  next => rfl

end HasNoLinks

end FileTree

end FormRules
