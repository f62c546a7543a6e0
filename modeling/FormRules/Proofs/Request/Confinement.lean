import FormRules.Proofs.Naming.ClassName
import FormRules.Proofs.Request.Place

/-!
Contract: the files of a request stay in the output directory.

Owns:
- the text of the relative path, for any table name;
- the location of a file that is written: in the directory that the output path
  leads to, or in the directory of the class right below it.

Does not own: links.  A link in the place of the class directory is followed,
and so is one in the place of the file when it is written directly; both are
excluded by hypothesis, in the tree where the directories have been made.
-/

namespace FormRules

open FormRules.Text

namespace FileTree

variable {tree : FileTree} {path parent : String}

/-- Where there is no link at a path, both ways of writing have one spot. -/
theorem spot_eq_own (leaf : Path.Leaf path parent)
    (accepted : Route.ofPath path = .ok (Route.ofText path)) {atomic : Bool}
    (noLink : atomic = false → tree.isLink path = false) :
    tree.spot atomic path = tree.own path := by
  cases atomic with
  | true => rfl
  | false =>
      show tree.find path = tree.own path
      rw [find_eq_walk leaf accepted, walk_of_own rfl accepted (noLink rfl)]

/-- A file lies under the last name of its path, in the directory that the path
above leads to. -/
theorem Receives.below {location : Location} {last : String} {atomic : Bool}
    (receives : tree.Receives atomic path location) (leaf : Path.Leaf path parent)
    (isLast : (Route.ofText path).names.getLast? = some last)
    (noLink : atomic = false → tree.isLink path = false) :
    Route.ofPath path = .ok (Route.ofText path) ∧
      ∃ directory, tree.StandsAt parent directory ∧ location = directory ++ [last] := by
  obtain ⟨place, found, located⟩ := receives.place
  have accepted := accepted_of_spot found
  obtain ⟨directory, stands⟩ := stands_of_spot leaf found
  rw [spot_eq_own leaf accepted noLink, own_of_lookIn leaf stands accepted isLast] at found
  exact ⟨accepted, directory, stands, located ▸ (location_of_lookIn found).1⟩

/-- A directory of a proper name, and no link, lies in the directory above. -/
theorem StandsAt.below {location : Location} {last : String}
    (stands : tree.StandsAt path location) (step : Path.StepUp path parent)
    (accepted : Route.ofPath path = .ok (Route.ofText path))
    (isLast : (Route.ofText path).names.getLast? = some last) (notDot : last ≠ ".")
    (notUp : last ≠ "..") (noLink : tree.isLink path = false) :
    ∃ directory, tree.StandsAt parent directory ∧ location = directory ++ [last] := by
  obtain ⟨place, entry, own⟩ := own_of_walk stands accepted
  obtain ⟨directory, standsAbove⟩ := stands_of_stepUp step own
  have looked := own_of_standsAt step standsAbove accepted isLast notDot notUp
  have walked := walk_of_own own accepted noLink
  rw [stands] at walked
  cases walked
  exact ⟨directory, standsAbove, (location_of_lookIn (looked.symm.trans own)).1⟩

end FileTree

/-- A file that is there after a write and was not before is the one that has
been put. -/
theorem GeneratedFile.receives_of_new {file : GeneratedFile} {tree : FileTree}
    {base parent : String} {atomic : Bool}
    (leaf : Path.Leaf (Path.join base file.path) parent) (tidied : Path.IsTidy parent)
    {location : Location} {content : Content}
    (there : (file.write tree base atomic).2.get? location = some (.file content))
    (new : tree.get? location ≠ some (.file content)) :
    (tree.createDirectories parent).2.Receives atomic (Path.join base file.path) location := by
  have onlyDirectories :
      (tree.createDirectories parent).2.get? location ≠ some (.file content) := by
    intro same
    rcases (FileTree.createDirectories_grows tidied tree).get? location with kept | ⟨_, made⟩
    · exact new (kept ▸ same)
    · rw [made] at same
      cases same
  have ends := written leaf tree atomic
  generalize file.write tree base atomic = result at ends there
  cases ends with
  | noDirectory failed =>
      rw [failed] at onlyDirectories
      exact absurd there onlyDirectories
  | refused made _ =>
      rw [made] at onlyDirectories
      exact absurd there onlyDirectories
  | stored made done =>
      rw [made] at onlyDirectories ⊢
      obtain ⟨other, receives, rfl⟩ := receives_of_store leaf done
      by_cases same : location = other
      · rw [same]
        exact receives
      · rw [FileTree.get?_put_of_ne _ _ same] at there
        exact absurd there onlyDirectories

namespace Request

variable (request : Request)

/-- The directory of the file, seen from the output directory. -/
def subdirectory : Location :=
  if request.className = "" then [] else [request.className]

/-- The path of the directory that the file is put in. -/
def directoryPath (base : String) : String :=
  Path.tidy (request.leading base)

theorem relativePath_eq : request.relativePath =
    if request.className = "" then "Request." ++ request.format.name
    else request.className ++ "/" ++ request.className ++ "Request." ++ request.format.name := by
  have named : request.fileName = request.className ++ ("Request." ++ request.format.name) := by
    rw [← String.toList_inj, toList_fileName, String.toList_append, String.toList_append]
  show Path.join request.className request.fileName = _
  rw [Path.join, request.isAbsolute_fileName, if_neg Bool.false_ne_true, named]
  by_cases empty : request.className = ""
  · rw [if_pos (by rw [empty]; rfl), if_pos empty, empty]
    exact String.empty_append
  · have endsClosed : (request.className.toList.getLast? == some '/') = false := by
      rw [beq_eq_false_iff_ne]
      intro ends
      exact request.notMem_className '/' (by decide) (List.mem_of_getLast? ends)
    rw [if_neg (by simp [empty, endsClosed]), if_neg empty]
    simp only [String.append_assoc]

/-- A directory that the file is put in is the output directory, or is right
below it. -/
theorem standsAt_directoryPath {base : String} {tree : FileTree} {location : Location}
    (stands : tree.StandsAt (request.directoryPath base) location)
    (accepted : Route.ofPath (Path.join base request.relativePath) =
      .ok (Route.ofText (Path.join base request.relativePath)))
    (noLink : request.className ≠ "" → tree.isLink (request.directoryPath base) = false) :
    ∃ directory, tree.StandsAt base directory ∧
      location = directory ++ request.subdirectory := by
  by_cases empty : request.className = ""
  · rw [directoryPath, leading, if_pos empty, List.append_nil] at stands
    rw [subdirectory, if_pos empty]
    exact ⟨location, stands.of_tidy_stem, (List.append_nil location).symm⟩
  · obtain ⟨tidied, above, isLast⟩ := request.below base empty
    have step := tidied.stepUp above
    have acceptedAbove := Route.ofPath_of_beginning accepted (request.leaf base).step.beginning
      step.ne_empty
    have noDot := request.notMem_className '.' (by decide)
    have notDot : request.className ≠ "." := by
      intro dot
      rw [dot] at noDot
      exact noDot (by decide)
    have notUp : request.className ≠ ".." := by
      intro up
      rw [up] at noDot
      exact noDot (by decide)
    obtain ⟨directory, standsAbove, located⟩ :=
      stands.below step acceptedAbove isLast notDot notUp (noLink empty)
    rw [subdirectory, if_neg empty]
    exact ⟨directory, standsAbove.of_tidy_stem, located⟩

/-- A file that is new after a write lies where its path leads, in the directory
of that name right below the output directory or in the output directory
itself. -/
theorem location_of_write {base : String} {tree : FileTree} {atomic : Bool}
    (noClassLink : request.className ≠ "" →
      (tree.createDirectories (request.directoryPath base)).2.isLink
        (request.directoryPath base) = false)
    (noFileLink : atomic = false →
      (tree.createDirectories (request.directoryPath base)).2.isLink
        (Path.join base request.relativePath) = false)
    {location : Location} {content : Content}
    (there : (request.file.write tree base atomic).2.get? location = some (.file content))
    (new : tree.get? location ≠ some (.file content)) :
    ∃ directory, (tree.createDirectories (request.directoryPath base)).2.StandsAt base directory ∧
      location = directory ++ request.subdirectory ++ [request.fileName] := by
  have leaf : Path.Leaf (Path.join base request.file.path) (request.directoryPath base) := by
    rw [path_file]
    exact request.leaf base
  have receives := GeneratedFile.receives_of_new leaf (request.isAt base).isTidy there new
  rw [path_file] at receives leaf
  obtain ⟨accepted, inside, stands, rfl⟩ :=
    receives.below leaf (request.getLast?_names base) noFileLink
  obtain ⟨directory, standsAbove, rfl⟩ :=
    request.standsAt_directoryPath stands accepted noClassLink
  exact ⟨directory, standsAbove, rfl⟩

theorem place_of_write {base : String} {tree : FileTree} {atomic : Bool} {place : String}
    (done : (request.file.write tree base atomic).1 = .ok place) :
    place = Path.join base request.relativePath := by
  have leaf : Path.Leaf (Path.join base request.file.path) (request.directoryPath base) := by
    rw [path_file]
    exact request.leaf base
  have ends := GeneratedFile.written leaf tree atomic
  generalize request.file.write tree base atomic = result at ends done
  cases ends with
  | noDirectory => cases done
  | refused => cases done
  | stored =>
      rw [← Except.ok.inj done, path_file]

/-- The path of a file is made of the class name alone, whatever the table is
called: the name is there if the table name has a letter or a digit, and never
holds a slash, a backslash, a dot or U+0000.  So the directory of the file is
the output directory or right below it.  Any file that is new after a write lies
in that directory, if there is no link in place of it and, for a direct write,
none in place of the file, once the directories have been made. -/
theorem writes_confined (request : Request) (base : String) (tree : FileTree) (atomic : Bool) :
    (request.relativePath =
      if request.className = "" then "Request." ++ request.format.name
      else request.className ++ "/" ++ request.className ++ "Request." ++ request.format.name) ∧
    (request.className ≠ "" ↔
      ∃ character ∈ request.table.toList, isAlphanumeric character = true) ∧
    (∀ mark ∈ ['/', '\\', '.', '\x00'], mark ∉ request.className.toList) ∧
    (∀ place, (request.file.write tree base atomic).1 = .ok place →
      place = Path.join base request.relativePath ∧
      Path.parent? place = some (request.directoryPath base)) ∧
    let made := (tree.createDirectories (request.directoryPath base)).2
    ((request.className ≠ "" → made.isLink (request.directoryPath base) = false) →
      (atomic = false → made.isLink (Path.join base request.relativePath) = false) →
      ∀ location content,
        (request.file.write tree base atomic).2.get? location = some (.file content) →
        tree.get? location ≠ some (.file content) →
        ∃ directory, made.StandsAt base directory ∧
          location = directory ++ request.subdirectory ++ [request.fileName]) := by
  refine ⟨request.relativePath_eq, ?_, ?_, ?_, ?_⟩
  · show Naming.className request.table ≠ "" ↔ _
    rw [Ne, Naming.className_eq_empty_iff]
    simp
  · intro mark isMark
    have among : ['/', '\\', '.', '\x00'] ⊆ Naming.marks := by decide
    exact request.notMem_className mark (among isMark)
  · intro place done
    rw [request.place_of_write done]
    exact ⟨rfl, (request.leaf base).above⟩
  · intro made noClassLink noFileLink location content there new
    exact request.location_of_write noClassLink noFileLink there new

/-- A table whose name is a path out of the output directory. -/
theorem writes_confined_hostile_name :
    let request := ofTable {} (Table.empty "/../..\\etc/passwd\x00")
    let path := "out/EtcPasswd/EtcPasswdRequest.php"
    let made := (({} : FileTree).createDirectories "out/EtcPasswd").2
    let after := (request.file.write {} "out" true).2
    let location := ["out", "EtcPasswd", "EtcPasswdRequest.php"]
    request.directoryPath "out" = "out/EtcPasswd" ∧ Path.join "out" request.relativePath = path ∧
    (request.className ≠ "" → made.isLink "out/EtcPasswd" = false) ∧
    (true = false → made.isLink path = false) ∧
    after.get? location = some (.file (.text request.file.content)) ∧
    ({} : FileTree).get? location ≠ some (.file (.text request.file.content)) ∧
    ∃ directory, made.StandsAt "out" directory ∧
      location = directory ++ request.subdirectory ++ [request.fileName] := by
  intro request path made after location
  obtain ⟨directoryPath, filePath, noClassLink, there, new⟩ :
      request.directoryPath "out" = "out/EtcPasswd" ∧ Path.join "out" request.relativePath = path ∧
        made.isLink "out/EtcPasswd" = false ∧
        after.get? location = some (.file (.text request.file.content)) ∧
        ({} : FileTree).get? location ≠ some (.file (.text request.file.content)) := by
    decide +kernel
  obtain ⟨_, _, _, _, confined⟩ := writes_confined request "out" {} true
  rw [directoryPath] at confined
  exact ⟨directoryPath, filePath, fun _ => noClassLink, nofun, there, new,
    confined (fun _ => noClassLink) nofun location _ there new⟩

/-- A link in place of the class directory is followed, and a direct write
follows one in place of the file: the file is made outside of the output
directory, although the path that is reported is the one inside. -/
theorem write_follows_links :
    let request := ofTable {} (Table.empty "posts")
    let content := Entry.file (.text request.file.content)
    let linkedDirectory : FileTree :=
      { entries := [(["elsewhere"], .directory), (["out"], .directory),
          (["out", "Post"], .link "../elsewhere")] }
    let linkedFile : FileTree :=
      { entries := [(["elsewhere"], .directory), (["out"], .directory),
          (["out", "Post"], .directory),
          (["out", "Post", "PostRequest.php"], .link "../../elsewhere/PostRequest.php")] }
    let location := ["elsewhere", "PostRequest.php"]
    ∀ trial ∈ [(linkedDirectory, true), (linkedFile, false)],
      let written := request.file.write trial.1 "out" trial.2
      trial.1.WellFormed ∧ trial.1.get? location = none ∧
      written.1.toOption = some "out/Post/PostRequest.php" ∧
      written.2.get? location = some content ∧
      (written.2.find "out").toOption = some (.existing ["out"] .directory) ∧
      ¬["out"] <+: location := by
  decide +kernel

end Request

end FormRules
