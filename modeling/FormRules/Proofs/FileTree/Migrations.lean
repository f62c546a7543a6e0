import FormRules.FileTree.Migrations
import FormRules.Proofs.FileTree.Growth
import Mathlib.Data.List.Nodup

/-!
Contract: the migrations that are located in a directory, and what can be read
of them later on.

Owns:
- where a located file is, and what its path leads to;
- the names of the located files, as a list that is settled by its members;
- reading a located file in a later tree.

Does not own: what changes the tree in between.

## Paths of located files

The path of a located file is the path of the directory with one proper name
behind it.  Whatever else has happened to a tree, such a path leads to what is
by that name in the directory, as long as the directory is found at all; and if
the directory is not found, neither is anything in it.
-/

namespace FormRules

/-- A proper name is a path of its own. -/
theorem Route.IsProper.ofText {name : String} (proper : IsProper name) :
    Path.isAbsolute name = false ∧ (Route.ofText name).names = [name] ∧
      (Route.ofText name).endsOpen = false := by
  obtain ⟨filled, _, _, whole⟩ := proper
  have pieces := Text.splitAt_of_notMem whole
  refine ⟨?_, ?_, ?_⟩
  · rw [Path.isAbsolute, beq_eq_false_iff_ne]
    intro starts
    exact whole (List.mem_of_mem_head? starts)
  · rw [names_ofText, pieces]
    simpa using filled
  · rw [endsOpen_ofText, pieces]
    simpa using filled

namespace FileTree

variable {tree later : FileTree} {path : String}

/-! ## Found directories -/

theorem standsAt_of_find {location : Location}
    (found : tree.find path = .ok (.existing location .directory)) :
    tree.StandsAt path location := by
  rw [find_of_accepted (accepted_of_find found)] at found
  rcases walk_through tree (Route.ofText path) with equal | ⟨_, _, same⟩
  · rwa [equal] at found
  · exact (same location).1 found

theorem find_of_standsAt {location : Location}
    (accepted : Route.ofPath path = .ok (Route.ofText path))
    (stands : tree.StandsAt path location) :
    tree.find path = .ok (.existing location .directory) := by
  rw [find_of_accepted accepted]
  rcases walk_through tree (Route.ofText path) with equal | ⟨_, _, same⟩
  · rw [equal]
    exact stands
  · exact (same location).2 stands

/-! ## One name behind a path -/

section Join

variable {base name : String} (proper : Route.IsProper name)

include proper

theorem through_join :
    (Route.ofText (Path.join base name)).through = (Route.ofText base).names ++ [name] := by
  obtain ⟨relative, names, endsOpen⟩ := proper.ofText
  rw [Route.through, Path.endsOpen_join base relative, endsOpen, Path.names_join base relative,
    names]
  rfl

theorem start_join (tree : FileTree) :
    tree.start (Route.ofText (Path.join base name)) = tree.start (Route.ofText base) := by
  rw [start, start, Path.absolute_join base proper.ofText.1]

/-- Anything behind a path is found through a directory at the path. -/
theorem stands_of_find_join {place : Place} (found : tree.find (Path.join base name) = .ok place) :
    tree.Stands base := by
  rw [find_of_accepted (accepted_of_find found), walk_eq, start_join proper,
    through_join proper] at found
  exact exists_directory_of_append (by simp) found

theorem find_join {location : Location}
    (accepted : Route.ofPath (Path.join base name) = .ok (Route.ofText (Path.join base name)))
    (stands : tree.StandsAt base location)
    (noLink : ∀ target, tree.get? (location ++ [name]) ≠ some (.link target)) :
    tree.find (Path.join base name) = tree.lookIn location name := by
  obtain ⟨left, further⟩ := walkFrom_append_of_existing stands.walkFrom
  rw [find_of_accepted accepted, walk_eq, start_join proper, through_join proper,
    further true _ (by simp)]
  apply walkFrom_true_of_false (walkFrom_single stands.directory proper.2.1 proper.2.2.1 left)
  intro found target looked
  obtain ⟨rfl, _⟩ := location_of_lookIn looked
  unfold lookIn at looked
  split at looked
  next => cases looked
  next =>
    split at looked
    next => cases looked
    next entry there =>
      cases looked
      exact noLink target there

/-- A file that is still there is read as before. -/
theorem readText_join {location : Location} {content : Content}
    (stands : tree.StandsAt base location) (again : later.StandsAt base location)
    (there : tree.get? (location ++ [name]) = some (.file content))
    (still : later.get? (location ++ [name]) = some (.file content)) :
    later.readText (Path.join base name) = tree.readText (Path.join base name) := by
  suffices same : later.find (Path.join base name) = tree.find (Path.join base name) by
    rw [readText, readText, same]
  rcases accepted_or_refused (Path.join base name) with accepted | ⟨fault, refused⟩
  · rw [find_join proper accepted stands (by simp [there]),
      find_join proper accepted again (by simp [still]), lookIn, lookIn, there, still]
  · rw [find, find, refused]
    rfl

/-- As long as its directory is found, a file is read as before, if it is kept
where the path finds it. -/
theorem readText_join_of_kept {location : Location} {content : Content}
    (evolves : Evolves tree later) (stands : tree.StandsAt base location)
    (again : later.StandsAt base location)
    (there : tree.get? (location ++ [name]) = some (.file content))
    (kept : tree.find (Path.join base name) = .ok (.existing (location ++ [name]) (.file content)) →
      later.get? (location ++ [name]) = some (.file content)) :
    later.readText (Path.join base name) = tree.readText (Path.join base name) := by
  rcases accepted_or_refused (Path.join base name) with accepted | ⟨fault, refused⟩
  · have foundBefore := find_join proper accepted stands (by simp [there])
    rw [lookIn, there] at foundBefore
    by_cases long : Route.longestName < name.utf8ByteSize
    · obtain ⟨other, file⟩ := evolves.file there
      have foundLater := find_join proper accepted again (by simp [file])
      rw [lookIn, if_pos long] at foundLater
      rw [if_pos long] at foundBefore
      rw [readText, readText, foundLater, foundBefore]
    · rw [if_neg long] at foundBefore
      exact readText_join proper stands again there (kept foundBefore)
  · rw [readText, readText, find, find, refused]
    rfl

/-- Later on a file is read as before or not at all, if it is kept where the path
finds it. -/
theorem readText_join_or {location : Location} {content : Content}
    (evolves : Evolves tree later) (stands : tree.StandsAt base location)
    (there : tree.get? (location ++ [name]) = some (.file content))
    (kept : tree.find (Path.join base name) = .ok (.existing (location ++ [name]) (.file content)) →
      later.get? (location ++ [name]) = some (.file content)) :
    later.readText (Path.join base name) = tree.readText (Path.join base name) ∨
      ∃ fault, later.readText (Path.join base name) = .error fault := by
  cases found : later.find (Path.join base name) with
  | error fault => exact .inr ⟨fault, by rw [readText, found]; rfl⟩
  | ok place =>
      have again := stands.still evolves (stands_of_find_join proper found)
      exact .inl (readText_join_of_kept proper evolves stands again there kept)

end Join

/-! ## Located files -/

variable {directory extension : String} {location : Location}

/-- The names of the migrations in a directory, in order. -/
def migrationNames (tree : FileTree) (location : Location) (extension : String) : List String :=
  (tree.children location).filter (tree.isMigration location extension)

theorem migrations_of_find
    (found : tree.find directory = .ok (.existing location .directory)) :
    tree.migrations directory extension =
      .ok ((tree.migrationNames location extension).map (Path.join directory)) := by
  rw [migrations, found]
  rfl

theorem exists_find_of_migrations {paths : List String}
    (located : tree.migrations directory extension = .ok paths) :
    ∃ location, tree.find directory = .ok (.existing location .directory) ∧
      paths = (tree.migrationNames location extension).map (Path.join directory) := by
  unfold migrations at located
  split at located
  next location found => exact ⟨location, found, (Except.ok.inj located).symm⟩
  next => cases located

theorem exists_file_of_isMigration {name : String}
    (isMigration : tree.isMigration location extension name = true) :
    ∃ content, tree.get? (location ++ [name]) = some (.file content) := by
  unfold FileTree.isMigration at isMigration
  split at isMigration
  next content _ there _ => exact ⟨content, there⟩
  next => cases isMigration

theorem mem_children {name : String} :
    name ∈ tree.children location ↔ ∃ entry, (location ++ [name], entry) ∈ tree.entries := by
  rw [children, List.mem_mergeSort, List.mem_filterMap]
  constructor
  · rintro ⟨⟨place, entry⟩, member, isChild⟩
    split at isChild
    next above =>
      refine ⟨entry, ?_⟩
      rw [← above, List.dropLast_append_getLast? name isChild]
      exact member
    next => cases isChild
  · rintro ⟨entry, member⟩
    exact ⟨_, member, by simp⟩

theorem mem_migrationNames {name : String} :
    name ∈ tree.migrationNames location extension ↔
      tree.isMigration location extension name = true := by
  rw [migrationNames, List.mem_filter, mem_children]
  constructor
  · exact And.right
  · intro isMigration
    obtain ⟨content, there⟩ := exists_file_of_isMigration isMigration
    exact ⟨⟨_, mem_entries_of_get? there (by simp)⟩, isMigration⟩

theorem pairwise_migrationNames :
    (tree.migrationNames location extension).Pairwise (· ≤ ·) := by
  have transitive : ∀ first second third : String, decide (first ≤ second) = true →
      decide (second ≤ third) = true → decide (first ≤ third) = true := by
    intro first second third before after
    rw [decide_eq_true_eq] at before after ⊢
    exact String.le_trans before after
  have total : ∀ first second : String, (decide (first ≤ second) || decide (second ≤ first)) = true := by
    intro first second
    rw [Bool.or_eq_true, decide_eq_true_eq, decide_eq_true_eq]
    exact String.le_total first second
  apply List.Pairwise.filter
  rw [children]
  simpa only [decide_eq_true_eq] using List.pairwise_mergeSort transitive total _

/-- A directory that is made is no migration. -/
theorem isMigration_of_grown {name : String}
    (grown : Entry.Grown (tree.get? (location ++ [name])) (later.get? (location ++ [name]))) :
    later.isMigration location extension name = tree.isMigration location extension name := by
  unfold FileTree.isMigration
  rcases grown with same | ⟨absent, made⟩
  · rw [same]
  · rw [absent, made]

/-- Names that are listed in order need no sorting. -/
theorem children_of_pairwise {names : List String}
    (listed : (tree.entries.filterMap fun item =>
      if item.1.dropLast = location then item.1.getLast? else none) = names)
    (inOrder : names.Pairwise (· ≤ ·)) : tree.children location = names := by
  rw [children, listed, List.mergeSort_of_pairwise (by simpa using inOrder)]

section WellFormed

variable (formed : tree.WellFormed)

include formed

theorem nodup_migrationNames : (tree.migrationNames location extension).Nodup := by
  apply List.Nodup.filter
  rw [children, (List.mergeSort_perm _ _).nodup_iff]
  have locations := formed.distinct.filterMap
    (f := fun place => if place.dropLast = location then place.getLast? else none)
    (by
      intro place other name isChild otherChild
      simp only [Option.mem_def, Option.ite_none_right_eq_some] at isChild otherChild
      rw [← List.dropLast_append_getLast? name isChild.2, isChild.1, ← otherChild.1,
        List.dropLast_append_getLast? name otherChild.2])
  rwa [List.filterMap_map] at locations

/-- The migrations of a directory are the same in both trees if each file is a
migration in both or in none. -/
theorem migrationNames_congr (laterFormed : later.WellFormed)
    (same : ∀ name, later.isMigration location extension name =
      tree.isMigration location extension name) :
    later.migrationNames location extension = tree.migrationNames location extension := by
  have permuted : (later.migrationNames location extension).Perm
      (tree.migrationNames location extension) := by
    rw [List.perm_ext_iff_of_nodup (nodup_migrationNames laterFormed) (nodup_migrationNames formed)]
    intro name
    rw [mem_migrationNames, mem_migrationNames, same]
  exact permuted.eq_of_pairwise (fun _ _ _ _ => String.le_antisymm) pairwise_migrationNames
    pairwise_migrationNames

/-- A located file is in the directory, by a proper name. -/
theorem exists_name_of_mem_migrations {paths : List String}
    (located : tree.migrations directory extension = .ok paths) :
    ∃ location, tree.find directory = .ok (.existing location .directory) ∧
      ∀ path ∈ paths, ∃ name content, Route.IsProper name ∧ path = Path.join directory name ∧
        tree.get? (location ++ [name]) = some (.file content) := by
  obtain ⟨location, found, rfl⟩ := exists_find_of_migrations located
  refine ⟨location, found, ?_⟩
  intro path member
  obtain ⟨name, isName, rfl⟩ := List.mem_map.1 member
  obtain ⟨content, there⟩ := exists_file_of_isMigration (mem_migrationNames.1 isName)
  obtain ⟨above, last, split, _, proper⟩ := formed.isPlace there (by simp)
  obtain ⟨_, sameLast⟩ := List.append_inj' split rfl
  rw [← List.singleton_inj.1 sameLast] at proper
  exact ⟨name, content, proper, rfl, there⟩

end WellFormed

end FileTree

end FormRules
