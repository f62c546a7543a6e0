import FormRules.Proofs.Generation.Write

/-!
Contract: a file that comes to its path by way of a temporary one.

Owns:
- the paths that a file can be put at at all, in either way of writing;
- the renaming of a file in a tree;
- the temporary file: it is not in the way of the path, and nothing of it is
  left, whether the renaming succeeds or fails.

Does not own: the directories above the path, and the choice of a temporary
name, which is a parameter.
-/

namespace FormRules

/-! ## Paths of files -/

namespace Path

/-- A path that may be that of a file: it ends in a name. -/
structure EndsInName (path : String) : Prop where
  noZero : '\x00' ∉ path.toList
  endsClosed : (Route.ofText path).endsOpen = false
  notDot : (Route.ofText path).names.getLast? ≠ some "."
  notUp : (Route.ofText path).names.getLast? ≠ some ".."

theorem EndsInName.leaf {path parent : String} (named : EndsInName path)
    (above : parent? path = some parent) : Leaf path parent := by
  obtain ⟨pieces, last, split⟩ : ∃ pieces last, Text.splitAt '/' path = pieces ++ [last] :=
    ⟨_, _, (List.dropLast_concat_getLast (Text.splitAt_ne_nil '/' path)).symm⟩
  have filled : last ≠ "" := by
    simpa [Route.endsOpen_ofText, split] using named.endsClosed
  have isLast : (Route.ofText path).names.getLast? = some last := by
    rw [Route.names_ofText, split, List.filter_append]
    simp [filled]
  have notDot : last ≠ "." := fun dot => named.notDot (by rw [isLast, dot])
  have busy : isIdle last = false := by simp [isIdle, filled, notDot]
  rw [parent?_of_concat split busy] at above
  cases above
  exact ⟨parent?_of_concat split busy, stepUp_of_split split busy, named.endsClosed, named.notDot,
    named.notUp⟩

end Path

namespace FileTree

variable {tree after : FileTree} {path parent : String} {content : Content}

theorem endsInName_of_replaceFile (replaced : tree.replaceFile path content = .ok after) :
    Path.EndsInName path := by
  rw [replaceFile] at replaced
  rcases accepted_or_refused path with accepted | ⟨fault, refused⟩
  · rw [accepted] at replaced
    simp only [bind, Except.bind] at replaced
    split at replaced
    next => cases replaced
    next place _ =>
        cases place with
        | vacant => cases replaced
        | existing directory entry =>
            simp only at replaced
            split at replaced
            next => cases replaced
            next => cases replaced
            next => cases replaced
            next name notDot notUp isLast =>
                split at replaced
                next => cases replaced
                split at replaced
                next => cases replaced
                next closed =>
                    refine ⟨(Route.ofPath_eq_ok_iff.1 accepted).1, by simpa using closed, ?_, ?_⟩
                    · rw [isLast]
                      exact fun dot => notDot (Option.some.inj dot)
                    · rw [isLast]
                      exact fun up => notUp (Option.some.inj up)
  · rw [refused] at replaced
    cases replaced

/-- Above an entry there is a directory; the root is above itself. -/
theorem WellFormed.directory_above (formed : tree.WellFormed) {location : Location}
    {entry : Entry} (there : tree.get? location = some entry) :
    tree.get? location.dropLast = some .directory := by
  by_cases root : location = []
  · rw [root]
    rfl
  · exact (isPlace_iff.1 (formed.isPlace there root)).1

/-- A walk that ends in dots leads to a directory. -/
theorem directory_of_walk_dots (formed : tree.WellFormed) {route : Route} {names : List String}
    {place : Place} (dots : names.getLast? = some "." ∨ names.getLast? = some "..")
    (walked : tree.walk true route names = .ok place) :
    ∃ location, place = .existing location .directory := by
  obtain ⟨last, isLast, isDots⟩ :
      ∃ last, names.getLast? = some last ∧ (last = "." ∨ last = "..") := by
    rcases dots with dot | up
    · exact ⟨".", dot, .inl rfl⟩
    · exact ⟨"..", up, .inr rfl⟩
  obtain ⟨front, rfl⟩ := List.getLast?_eq_some_iff.1 isLast
  rw [walk_eq] at walked
  obtain ⟨directory, before⟩ := exists_directory_of_append (by simp) walked
  have there := get?_of_existing before
  obtain ⟨left, further⟩ := walkFrom_append_of_existing before
  rw [further true [last] (by simp), walkFrom_cons] at walked
  rcases isDots with rfl | rfl
  · simp only [passage_dot there, walkFrom_nil, there] at walked
    cases walked
    exact ⟨_, rfl⟩
  · have up : tree.passage directory ".." = .onward directory.dropLast := by
      rw [passage, there]
      rfl
    simp only [up, walkFrom_nil, formed.directory_above there] at walked
    cases walked
    exact ⟨_, rfl⟩

theorem endsInName_of_writeInPlace (formed : tree.WellFormed)
    (written : tree.writeInPlace path content = .ok after) : Path.EndsInName path := by
  rw [writeInPlace] at written
  rcases accepted_or_refused path with accepted | ⟨fault, refused⟩
  · rw [accepted] at written
    simp only [bind, Except.bind] at written
    split at written
    next => split at written <;> cases written
    next closed =>
        have noDots : ¬((Route.ofText path).names.getLast? = some "." ∨
            (Route.ofText path).names.getLast? = some "..") := by
          intro dots
          cases walked : tree.walk true (Route.ofText path) (Route.ofText path).names with
          | error fault => simp [walked] at written
          | ok place =>
              obtain ⟨location, rfl⟩ := directory_of_walk_dots formed dots walked
              simp [walked] at written
        exact ⟨(Route.ofPath_eq_ok_iff.1 accepted).1, by simpa using closed,
          fun dot => noDots (.inl dot), fun up => noDots (.inr up)⟩
  · rw [refused] at written
    cases written

/-! ## Taking an entry away -/

theorem put_put (tree : FileTree) (location : Location) (first second : Entry) :
    (tree.put location first).put location second = tree.put location second := by
  simp [put]

theorem erase_put_self (tree : FileTree) (location : Location) (entry : Entry) :
    (tree.put location entry).erase location = tree.erase location := by
  simp [put, erase]

theorem erase_put_of_ne {location other : Location} (different : other ≠ location)
    (entry : Entry) :
    (tree.put other entry).erase location = (tree.erase location).put other entry := by
  simp [put, erase, different, Bool.and_comm]

theorem erase_of_absent {location : Location} (absent : tree.get? location = none) :
    tree.erase location = tree := by
  have proper : location ≠ [] := ne_nil_of_get? (by rw [absent]; simp)
  rw [get?, if_neg proper, List.lookup_eq_none_iff] at absent
  have all : tree.entries.filter (fun item => item.1 != location) = tree.entries := by
    rw [List.filter_eq_self]
    intro item member
    rw [bne_comm]
    exact absent item member
  rw [erase, all]

/-- What was put at a free place can be taken away again. -/
theorem erase_put_of_absent {location : Location} (absent : tree.get? location = none)
    (entry : Entry) : (tree.put location entry).erase location = tree := by
  rw [erase_put_self, erase_of_absent absent]

theorem extends_put_file {location : Location} (absent : tree.get? location = none)
    (content : Content) : Extends tree (tree.put location (.file content)) := by
  refine ⟨evolves_put_file (by simp [absent]) content, ?_⟩
  intro other target there
  have different : other ≠ location := by
    rintro rfl
    rw [absent] at there
    cases there
  rw [get?_put_of_ne tree _ different, there]

/-! ## Renaming -/

/-- Bring the file at a location to a path, in place of a file or link of that
name; a file that is there already stays. -/
def rename (tree : FileTree) (source : Location) (path : String) : Except FileFault FileTree :=
  match tree.get? source with
  | some (.file content) =>
      match tree.replaceFile path content with
      | .error fault => .error fault
      | .ok after =>
          if (tree.own path).toOption.map Place.location = some source then .ok tree
          else .ok (after.erase source)
  | _ => .error .noSuchEntry

theorem rename_of_error {source : Location} {fault : FileFault}
    (there : tree.get? source = some (.file content))
    (refused : tree.replaceFile path content = .error fault) :
    tree.rename source path = .error fault := by
  rw [rename, there]
  simp only [refused]

/-- A new file that is renamed comes to lie where it would have been put without
it, and nothing is left at its first place. -/
theorem rename_new (leaf : Path.Leaf path parent) (stands : tree.Stands parent)
    {source : Location} (absent : tree.get? source = none) (content : Content) :
    (tree.put source (.file content)).rename source path = tree.replaceFile path content := by
  have extended := extends_put_file absent content
  have proper : source ≠ [] := ne_nil_of_get? (by rw [absent]; simp)
  have there := get?_put_self tree (.file content) proper
  obtain ⟨directory, found⟩ := stands
  have foundThen := found.of_extends extended
  rw [rename, there, replaceFile_eq leaf ⟨directory, found⟩]
  simp only [replaceFile_eq leaf ⟨directory, foundThen⟩]
  rcases accepted_or_refused path with accepted | ⟨fault, refused⟩
  · obtain ⟨last, isLast⟩ := leaf.exists_last
    rw [own_of_lookIn leaf found accepted isLast, own_of_lookIn leaf foundThen accepted isLast,
      lookIn, lookIn]
    by_cases long : Route.longestName < last.utf8ByteSize
    · simp only [if_pos long, putAt]
    simp only [if_neg long]
    by_cases same : directory ++ [last] = source
    · -- The name of the path is the temporary one.
      simp only [same, there, absent, putAt, Except.toOption, Option.map_some, Place.location,
        if_true]
    · rw [get?_put_of_ne tree _ same]
      cases child : tree.get? (directory ++ [last]) with
      | none =>
          simp [putAt, Except.toOption, Place.location, same, erase_put_of_ne same,
            erase_put_of_absent absent]
      | some entry =>
          cases entry with
          | directory => rfl
          | file | link =>
              simp [putAt, Except.toOption, Place.location, same, erase_put_of_ne same,
                erase_put_of_absent absent]
  · simp only [own, refused, bind, Except.bind, putAt]

end FileTree

/-! ## Ways to put a file at its path -/

/-- Where a temporary file can be made in the directory that a path leads to, or
the reason why it cannot. -/
abbrev TemporaryPlace :=
  FileTree → String → Except String Location

/-- A temporary file is never one that is there already. -/
def TemporaryPlace.IsNew (place : TemporaryPlace) : Prop :=
  ∀ tree parent location, place tree parent = .ok location → tree.get? location = none

/-- The temporary file of a given name, in a directory where that name is
free. -/
def TemporaryPlace.named (name : String) : TemporaryPlace := fun tree parent =>
  match tree.walk true (Route.ofText parent) (Route.ofText parent).names with
  | .ok (.existing directory .directory) =>
      if tree.get? (directory ++ [name]) = none then .ok (directory ++ [name])
      else .error FileFault.alreadyExists.message
  | _ => .error FileFault.noSuchEntry.message

theorem TemporaryPlace.isNew_named (name : String) : (named name).IsNew := by
  intro tree parent location made
  unfold named at made
  split at made
  next =>
      split at made
      next absent =>
          cases made
          exact absent
      next => cases made
  next => cases made

namespace GeneratedFile

variable {file : GeneratedFile} {tree : FileTree} {path parent base : String}
  {place : TemporaryPlace}

/-- Put the content at a path in one of the two ways. -/
def storeDirectly (file : GeneratedFile) (atomic : Bool) (path : String) (tree : FileTree)
    (_ : String) : Except String Unit × FileTree :=
  match file.store tree path atomic with
  | .ok after => (.ok (), after)
  | .error fault => (.error fault.message, tree)

/-- Put the content at a path by way of a temporary file: it is made, filled and
renamed, and it is taken away if it cannot be renamed. -/
def storeStaged (place : TemporaryPlace) (file : GeneratedFile) (path : String) (tree : FileTree)
    (parent : String) : Except String Unit × FileTree :=
  match place tree parent with
  | .error reason => (.error reason, tree)
  | .ok temporary =>
      let made := tree.put temporary (.file (.text ""))
      let filled := made.put temporary (.file (.text file.content))
      match filled.rename temporary path with
      | .ok after => (.ok (), after)
      | .error fault => (.error fault.message, filled.erase temporary)

/-- The file is not put there and the tree is as before, or it is. -/
inductive Stored (file : GeneratedFile) (path : String) (tree : FileTree) :
    Except String Unit × FileTree → Prop where
  | refused (reason : String) : Stored file path tree (.error reason, tree)
  | put {location : Location} (named : Path.EndsInName path)
      (receives : tree.Receives true path location) :
      Stored file path tree (.ok (), tree.put location (.file (.text file.content)))

theorem Stored.refused_of_unnamed {result : Except String Unit × FileTree}
    (stored : Stored file path tree result) (unnamed : ¬ Path.EndsInName path) :
    ∃ reason, result = (.error reason, tree) := by
  cases stored with
  | refused reason => exact ⟨reason, rfl⟩
  | put named => exact absurd named unnamed

section Parent

variable (above : Path.parent? path = some parent)

include above

theorem stored_of_atomic : Stored file path tree (file.storeDirectly true path tree parent) := by
  rw [storeDirectly]
  cases stored : file.store tree path true with
  | error fault => exact .refused _
  | ok after =>
      have named : Path.EndsInName path := FileTree.endsInName_of_replaceFile stored
      obtain ⟨location, receives, rfl⟩ := receives_of_store (named.leaf above) stored
      exact .put named receives

variable (new : place.IsNew) {temporary : Location} (made : place tree parent = .ok temporary)

include new made

/-- A file that is staged is put as it is without a temporary one. -/
theorem storeStaged_eq (named : Path.EndsInName path) (stands : tree.Stands parent) :
    file.storeStaged place path tree parent = file.storeDirectly true path tree parent := by
  have absent := new tree parent temporary made
  rw [storeStaged, made, storeDirectly, store, if_pos rfl]
  simp only [FileTree.put_put, FileTree.rename_new (named.leaf above) stands absent]
  cases tree.replaceFile path (.text file.content) with
  | ok after => rfl
  | error fault => simp only [FileTree.erase_put_of_absent absent]

omit above in
theorem storeStaged_unnamed (unnamed : ¬ Path.EndsInName path) :
    ∃ reason, file.storeStaged place path tree parent = (.error reason, tree) := by
  have absent := new tree parent temporary made
  have proper : temporary ≠ [] := FileTree.ne_nil_of_get? (by rw [absent]; simp)
  rw [storeStaged, made]
  simp only [FileTree.put_put]
  have there := FileTree.get?_put_self tree (.file (.text file.content)) proper
  cases replaced : (tree.put temporary (.file (.text file.content))).replaceFile path
      (.text file.content) with
  | ok after => exact absurd (FileTree.endsInName_of_replaceFile replaced) unnamed
  | error fault =>
      simp only [FileTree.rename_of_error there replaced, FileTree.erase_put_of_absent absent]
      exact ⟨_, rfl⟩

omit made in
theorem stored_of_staged (stands : tree.Stands parent) :
    Stored file path tree (file.storeStaged place path tree parent) := by
  cases made : place tree parent with
  | error reason =>
      rw [storeStaged, made]
      exact .refused reason
  | ok temporary =>
      by_cases named : Path.EndsInName path
      · rw [storeStaged_eq above new made named stands]
        exact stored_of_atomic above
      · obtain ⟨reason, refused⟩ := storeStaged_unnamed new made named
        rw [refused]
        exact .refused reason

end Parent

end GeneratedFile

end FormRules
