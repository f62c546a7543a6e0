import FormRules.Proofs.Generation.Staging

/-!
Contract: the one write of a file either happens or leaves no trace, however the
file is put at its path.

Owns:
- the directories that may be new after a write, all of them on the way to the
  path;
- the write of a file with its last step as a parameter, which both ways of
  writing and the way by a temporary file are cases of;
- the agreement of these ways in a tree without links.

Does not own: how the last step goes on in the directory that has been made.
-/

namespace FormRules

/-- Results of writes can be compared. -/
instance decidableEqResult {ε α : Type} [DecidableEq ε] [DecidableEq α] :
    DecidableEq (Except ε α)
  | .ok one, .ok other => decidable_of_iff (one = other) (by simp)
  | .error one, .error other => decidable_of_iff (one = other) (by simp)
  | .ok _, .error _ => isFalse nofun
  | .error _, .ok _ => isFalse nofun

/-- The paths of the directories that a path calls for. -/
def Path.onWay (path : String) : List String :=
  match parent? path with
  | some parent => ancestors parent
  | none => []

namespace FileTree

variable {tree middle later : FileTree} {path parent : String} {location : Location}

/-! ## Directories on the way -/

/-- A location is as before, or a directory is new there that one of the paths
leads to. -/
inductive Prepared (tree later : FileTree) (paths : List String) (location : Location) : Prop where
  | kept (same : later.get? location = tree.get? location)
  | made {path : String} (absent : tree.get? location = none) (onWay : path ∈ paths)
      (stands : later.StandsAt path location)

namespace Prepared

variable {paths : List String}

theorem subset {more : List String} (prepared : Prepared tree later paths location)
    (included : paths ⊆ more) : Prepared tree later more location := by
  cases prepared with
  | kept same => exact .kept same
  | made absent onWay stands => exact .made absent (included onWay) stands

theorem trans (before : Prepared tree middle paths location)
    (after : Prepared middle later paths location) (extended : Extends middle later) :
    Prepared tree later paths location := by
  cases before with
  | made absent onWay stands => exact .made absent onWay (stands.of_extends extended)
  | kept same =>
      cases after with
      | kept sameThen => exact .kept (sameThen.trans same)
      | made absent onWay stands => exact .made (same ▸ absent) onWay stands

end Prepared

theorem prepared_of_requireDirectory (made : tree.requireDirectory path = .ok later)
    (location : Location) : Prepared tree later [path] location := by
  rw [requireDirectory_eq] at made
  split at made
  next => cases made
  next directory name found =>
      cases made
      have accepted := accepted_of_own found
      have walked := found
      rw [own_of_accepted accepted, walk_eq] at walked
      have absent := (free_of_passage (passage_of_vacant walked)).1
      have existing := own_put_of_vacant found (extends_put_directory absent)
      by_cases same : location = directory ++ [name]
      · rw [same]
        refine .made absent (List.mem_singleton_self path) ?_
        exact walk_of_own existing accepted (by rw [isLink, existing])
      · exact .kept (get?_put_of_ne tree _ same)
  next =>
      split at made <;> cases made
      exact .kept rfl

/-- Whatever the attempt to make the directories comes to, only such on the way
are new. -/
theorem prepared_of_createDirectories (tidied : Path.IsTidy path) (tree : FileTree)
    (location : Location) :
    Prepared tree (tree.createDirectories path).2 (Path.ancestors path) location := by
  induction tidied using Path.tidy_induction generalizing tree with
  | top path _ bare parts =>
      rw [createDirectories_of_bare parts]
      exact .kept rfl
  | below path parent _ step parts inductionHypothesis =>
      have above : Path.ancestors parent ⊆ Path.ancestors path := by
        rw [parts]
        exact List.subset_cons_self _ _
      have itself : [path] ⊆ Path.ancestors path := by simp [parts]
      cases attempted : tree.createDirectories path with
      | mk result after =>
          have attempt := attempt step parts tree
          have prepared := (inductionHypothesis tree).subset above
          rw [attempted] at attempt
          cases attempt with
          | made done => exact (prepared_of_requireDirectory done location).subset itself
          | refused => exact .kept rfl
          | stuck missing failed =>
              rw [failed] at prepared
              exact prepared
          | madeThen missing made done =>
              rw [made] at prepared
              -- The directories above stay where their paths lead while this one is made.
              exact prepared.trans ((prepared_of_requireDirectory done location).subset itself)
                (requireDirectory_ok done).1.toExtends
          | refusedThen missing made failed =>
              rw [made] at prepared
              exact prepared

/-! ## Trees without links -/

section NoLinks

variable (noLinks : tree.HasNoLinks)

include noLinks

theorem HasNoLinks.find_eq (leaf : Path.Leaf path parent) : tree.find path = tree.own path := by
  rcases accepted_or_refused path with accepted | ⟨fault, refused⟩
  · rw [find_eq_walk leaf accepted]
    exact walk_of_own rfl accepted (noLinks.isLink_eq_false path)
  · rw [find, own, refused]
    rfl

/-- Without links, both ways put the file at the same place. -/
theorem HasNoLinks.putAt_eq (leaf : Path.Leaf path parent) (content : Content) :
    tree.putAt false content (tree.find path) = tree.putAt true content (tree.own path) := by
  rw [noLinks.find_eq leaf]
  cases found : tree.own path with
  | error fault => rfl
  | ok place =>
      cases place with
      | vacant => rfl
      | existing location entry =>
          cases entry with
          | directory | file => rfl
          | link target => exact absurd found (noLinks.own_ne_link path location target)

end NoLinks

end FileTree

namespace GeneratedFile

variable {file : GeneratedFile} {tree : FileTree} {path parent base : String}
  {place : TemporaryPlace}

/-! ## A write with any last step -/

/-- What is reported of the last step. -/
def reported (path : String) :
    Except String Unit × FileTree → Except Error String × FileTree
  | (.ok (), tree) => (.ok path, tree)
  | (.error reason, tree) => (.error (.fileWrite path reason), tree)

/-- Write the file below a base directory, where the last step puts it at a path
in a directory that has been made. -/
def writeBy (put : String → FileTree → String → Except String Unit × FileTree)
    (file : GeneratedFile) (tree : FileTree) (base : String) : Except Error String × FileTree :=
  let path := Path.join base file.path
  match Path.parent? path with
  | none => (.error (.invalidOutputPath path), tree)
  | some parent =>
      match tree.createDirectories parent with
      | (.error fault, tree) => (.error (.directoryCreate parent fault.message), tree)
      | (.ok (), tree) => reported path (put path tree parent)

/-- Write the file by way of a temporary one in its directory. -/
def writeStaged (place : TemporaryPlace) (file : GeneratedFile) (tree : FileTree)
    (base : String) : Except Error String × FileTree :=
  file.writeBy (file.storeStaged place) tree base

theorem write_eq_writeBy (file : GeneratedFile) (tree : FileTree) (base : String)
    (atomic : Bool) :
    file.write tree base atomic = file.writeBy (file.storeDirectly atomic) tree base := by
  unfold write writeBy
  simp only
  cases Path.parent? (Path.join base file.path) with
  | none => rfl
  | some parent =>
      simp only
      cases tree.createDirectories parent with
      | mk result middle =>
          cases result with
          | error fault => rfl
          | ok =>
              simp only [storeDirectly]
              cases file.store middle (Path.join base file.path) atomic <;> rfl

/-- The tree in which the write of a file at the path comes to its last step. -/
structure Reached (tree : FileTree) (path parent : String) (middle : FileTree) : Prop where
  above : Path.parent? path = some parent
  made : tree.createDirectories parent = (.ok (), middle)

section Reached

variable {middle : FileTree} (reached : Reached tree path parent middle)

include reached

theorem Reached.grows : tree.Grows middle := by
  have grown := FileTree.createDirectories_grows (Path.isTidy_of_parent? reached.above) tree
  rwa [reached.made] at grown

theorem Reached.stands (formed : tree.WellFormed) : middle.Stands parent :=
  FileTree.stands_of_createDirectories (Path.isTidy_of_parent? reached.above) formed.started
    reached.made

/-- Without links, both ways put a file where one can be put. -/
theorem Reached.storeDirectly_eq (formed : tree.WellFormed) (noLinks : tree.HasNoLinks)
    (named : Path.EndsInName path) :
    file.storeDirectly false path middle parent = file.storeDirectly true path middle parent := by
  have leaf := named.leaf reached.above
  have stands := reached.stands formed
  rw [storeDirectly, storeDirectly, store_eq leaf stands, store_eq leaf stands]
  simp only [FileTree.spot, Bool.false_eq_true, if_false, if_true,
    (noLinks.grows reached.grows).putAt_eq leaf]

theorem Reached.storeDirectly_unnamed (formed : tree.WellFormed)
    (unnamed : ¬ Path.EndsInName path) :
    ∃ reason, file.storeDirectly false path middle parent = (.error reason, middle) := by
  rw [storeDirectly]
  cases stored : file.store middle path false with
  | error fault => exact ⟨fault.message, rfl⟩
  | ok after =>
      have named := FileTree.endsInName_of_writeInPlace (reached.grows.wellFormed formed) stored
      exact absurd named unnamed

end Reached

/-! ## What is left of a write -/

/-- A write that fails has made directories on the way at most; one that
succeeds has put the file at its path besides. -/
structure AllOrNothing (file : GeneratedFile) (tree : FileTree) (path : String)
    (result : Except Error String × FileTree) : Prop where
  failed : ∀ error, result.1 = .error error →
    ∀ location, FileTree.Prepared tree result.2 (Path.onWay path) location
  done : ∀ place, result.1 = .ok place → place = path ∧
    ∃ location, result.2.find path = .ok (.existing location (.file (.text file.content))) ∧
      ∀ other, other ≠ location → FileTree.Prepared tree result.2 (Path.onWay path) other

/-- Two writes come to the same; only the reason in the error may be another one
if the path cannot be that of a file. -/
inductive Agree (path : String) :
    Except Error String × FileTree → Except Error String × FileTree → Prop where
  | same (result : Except Error String × FileTree) : Agree path result result
  | reasons (unnamed : ¬ Path.EndsInName path) (reason other : String) (after : FileTree) :
      Agree path (.error (.fileWrite path reason), after) (.error (.fileWrite path other), after)

section LastStep

variable {put other : String → FileTree → String → Except String Unit × FileTree}

/-- Either the directories cannot be made, whatever the last step is, or it is
the last step that decides. -/
theorem writeBy_cases (file : GeneratedFile) (tree : FileTree) (base : String) :
    ∃ middle, (∀ location,
        FileTree.Prepared tree middle (Path.onWay (Path.join base file.path)) location) ∧
      ((∃ error, ∀ put, file.writeBy put tree base = (.error error, middle)) ∨
        ∃ parent, Reached tree (Path.join base file.path) parent middle ∧
          ∀ put, file.writeBy put tree base =
            reported (Path.join base file.path) (put (Path.join base file.path) middle parent)) := by
  unfold writeBy
  generalize Path.join base file.path = path
  cases above : Path.parent? path with
  | none =>
      exact ⟨tree, fun _ => .kept rfl, .inl ⟨.invalidOutputPath path, fun _ => by simp only [above]⟩⟩
  | some parent =>
      have tidied := Path.isTidy_of_parent? above
      have onWay : Path.onWay path = Path.ancestors parent := by rw [Path.onWay, above]
      have prepared := FileTree.prepared_of_createDirectories tidied tree
      rw [onWay]
      cases made : tree.createDirectories parent with
      | mk result middle =>
          rw [made] at prepared
          refine ⟨middle, prepared, ?_⟩
          cases result with
          | error fault =>
              exact .inl ⟨.directoryCreate parent fault.message, fun _ => by simp only [above, made]⟩
          | ok => exact .inr ⟨parent, ⟨above, made⟩, fun _ => by simp only [above, made]⟩

theorem allOrNothing_of_stored (noLinks : tree.HasNoLinks)
    (stored : ∀ middle parent, Reached tree (Path.join base file.path) parent middle →
      Stored file (Path.join base file.path) middle (put (Path.join base file.path) middle parent)) :
    AllOrNothing file tree (Path.join base file.path) (file.writeBy put tree base) := by
  obtain ⟨middle, prepared, ⟨error, failed⟩ | ⟨parent, reached, decided⟩⟩ :=
    writeBy_cases file tree base
  · rw [failed]
    exact ⟨fun _ _ => prepared, nofun⟩
  have ends := stored middle parent reached
  rw [decided]
  generalize put (Path.join base file.path) middle parent = result at ends ⊢
  cases ends with
  | refused reason => exact ⟨fun _ _ => prepared, nofun⟩
  | @put location named receives =>
      refine ⟨nofun, ?_⟩
      intro place same
      have keeps := (noLinks.grows reached.grows).keepsLinks
        (middle.put location (.file (.text file.content)))
      have found := receives.found keeps
      refine ⟨(Except.ok.inj same).symm, location,
        FileTree.find_of_spot (named.leaf reached.above) found, ?_⟩
      intro other different
      refine (prepared other).trans (.kept ?_) ⟨receives.evolves _, keeps⟩
      exact FileTree.get?_put_of_ne middle _ different

/-- Writes agree if their last steps do where a file can be put, and fail where
none can be put. -/
theorem agree_of_steps
    (named : Path.EndsInName (Path.join base file.path) → ∀ middle parent,
      Reached tree (Path.join base file.path) parent middle →
        put (Path.join base file.path) middle parent =
          other (Path.join base file.path) middle parent)
    (unnamed : ¬ Path.EndsInName (Path.join base file.path) → ∀ middle parent,
      Reached tree (Path.join base file.path) parent middle →
        (∃ reason, put (Path.join base file.path) middle parent = (.error reason, middle)) ∧
        ∃ reason, other (Path.join base file.path) middle parent = (.error reason, middle)) :
    Agree (Path.join base file.path) (file.writeBy put tree base) (file.writeBy other tree base) := by
  obtain ⟨middle, _, ⟨error, failed⟩ | ⟨parent, reached, decided⟩⟩ :=
    writeBy_cases file tree base
  · rw [failed, failed]
    exact .same _
  rw [decided, decided]
  by_cases isNamed : Path.EndsInName (Path.join base file.path)
  · rw [named isNamed middle parent reached]
    exact .same _
  · obtain ⟨⟨reason, refused⟩, otherReason, otherRefused⟩ := unnamed isNamed middle parent reached
    rw [refused, otherRefused]
    exact .reasons isNamed reason otherReason middle

end LastStep

/-! ## The ways of writing -/

/-- In a tree without links a write, atomic or direct, happens or leaves no trace
but directories on the way; and so does one by way of a new temporary file.  All
three come to the same if such a file can be made at all. -/
theorem write_allOrNothing (formed : tree.WellFormed) (noLinks : tree.HasNoLinks)
    (new : place.IsNew) (file : GeneratedFile) (base : String) :
    AllOrNothing file tree (Path.join base file.path) (file.write tree base true) ∧
    AllOrNothing file tree (Path.join base file.path) (file.writeStaged place tree base) ∧
    Agree (Path.join base file.path) (file.write tree base true) (file.write tree base false) ∧
    ((∀ middle parent, Reached tree (Path.join base file.path) parent middle →
        ∃ temporary, place middle parent = .ok temporary) →
      Agree (Path.join base file.path) (file.writeStaged place tree base)
        (file.write tree base false)) := by
  have staged : ∀ middle parent, Reached tree (Path.join base file.path) parent middle →
      Stored file (Path.join base file.path) middle
        (file.storeStaged place (Path.join base file.path) middle parent) :=
    fun _ _ reached => stored_of_staged reached.above new (reached.stands formed)
  have atomic : ∀ middle parent, Reached tree (Path.join base file.path) parent middle →
      Stored file (Path.join base file.path) middle
        (file.storeDirectly true (Path.join base file.path) middle parent) :=
    fun _ _ reached => stored_of_atomic reached.above
  rw [write_eq_writeBy, write_eq_writeBy, writeStaged]
  refine ⟨allOrNothing_of_stored noLinks atomic, allOrNothing_of_stored noLinks staged,
    agree_of_steps ?sameWay ?bothFail, fun available => agree_of_steps ?sameStaged ?stagedFails⟩
  case sameWay =>
    intro named middle parent reached
    exact (reached.storeDirectly_eq formed noLinks named).symm
  case bothFail =>
    intro unnamed middle parent reached
    exact ⟨(atomic middle parent reached).refused_of_unnamed unnamed,
      reached.storeDirectly_unnamed formed unnamed⟩
  case sameStaged =>
    intro named middle parent reached
    obtain ⟨temporary, made⟩ := available middle parent reached
    rw [reached.storeDirectly_eq formed noLinks named]
    exact storeStaged_eq reached.above new made named (reached.stands formed)
  case stagedFails =>
    intro unnamed middle parent reached
    exact ⟨(staged middle parent reached).refused_of_unnamed unnamed,
      reached.storeDirectly_unnamed formed unnamed⟩

/-- A write into a directory that has to be made, by way of a temporary file. -/
theorem write_allOrNothing_new_directory :
    let tree : FileTree :=
      { entries := [(["out"], .directory), (["notes.txt"], .file (.text "kept"))] }
    let file : GeneratedFile :=
      { path := "User/UserRequest.php", content := "<?php\n", format := .php, table := "users" }
    let place := TemporaryPlace.named ".tmpA1b2C3"
    let path := "out/User/UserRequest.php"
    let available := ∀ middle parent, Reached tree path parent middle →
      ∃ temporary, place middle parent = .ok temporary
    tree.WellFormed ∧ tree.HasNoLinks ∧ place.IsNew ∧ available ∧
    file.AllOrNothing tree path (file.writeStaged place tree "out") ∧
    Agree path (file.writeStaged place tree "out") (file.write tree "out" false) ∧
    (file.writeStaged place tree "out").1 = .ok path := by
  intro tree file place path available
  have formed : tree.WellFormed := by decide
  have noLinks : tree.HasNoLinks := FileTree.hasNoLinks_of_entries (by simp [tree])
  have new : place.IsNew := TemporaryPlace.isNew_named _
  obtain ⟨joined, isParent, made, written⟩ :
      Path.join "out" file.path = path ∧ Path.parent? path = some "out/User" ∧
      place (tree.createDirectories "out/User").2 "out/User" =
        .ok ["out", "User", ".tmpA1b2C3"] ∧
      (file.writeStaged place tree "out").1 = .ok path := by
    decide +kernel
  have free : available := by
    intro middle parent reached
    have above := reached.above
    rw [isParent] at above
    cases above
    rw [reached.made] at made
    exact ⟨_, made⟩
  obtain ⟨_, staged, _, agree⟩ := write_allOrNothing formed noLinks new file "out"
  rw [joined] at staged agree
  exact ⟨formed, noLinks, new, free, staged, agree free, written⟩

/-- Where the path leads up, or asks for a directory, both ways fail and leave
the tree alone, but the file system gives another reason to each. -/
theorem write_modes_differ_in_reason :
    let tree : FileTree := { entries := [(["out"], .directory)] }
    tree.WellFormed ∧ tree.HasNoLinks ∧
    ∀ trial ∈ [("..", FileFault.busy), ("User/", FileFault.notDirectory)],
      let file : GeneratedFile :=
        { path := trial.1, content := "", format := .php, table := "users" }
      let error := fun fault : FileFault =>
        Error.fileWrite (Path.join "out" file.path) fault.message
      file.write tree "out" true = (.error (error trial.2), tree) ∧
      file.write tree "out" false = (.error (error .isDirectory), tree) ∧
      error trial.2 ≠ error .isDirectory := by
  refine ⟨by decide, FileTree.hasNoLinks_of_entries (by simp), ?_⟩
  decide +kernel

end GeneratedFile

end FormRules
