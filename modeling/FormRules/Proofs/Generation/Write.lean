import FormRules.Generation.Write
import FormRules.Proofs.FileTree.Directories

/-!
Contract: what writing one file does to a tree, and what writing it again does.

Owns:
- where a file is put, in either way of writing;
- the three ends of a write, with the tree that each leaves;
- the second write, in any later tree.

Does not own: which files a run writes.
-/

namespace FormRules

open FormRules.Path (StepUp)

/-- A path that ends in the name of a file, in the directory that the second
path leads to. -/
structure Path.Leaf (path parent : String) : Prop where
  above : Path.parent? path = some parent
  step : StepUp path parent
  endsClosed : (Route.ofText path).endsOpen = false
  notDot : (Route.ofText path).names.getLast? ≠ some "."
  notUp : (Route.ofText path).names.getLast? ≠ some ".."

theorem Path.Leaf.exists_last {path parent : String} (leaf : Leaf path parent) :
    ∃ last, (Route.ofText path).names.getLast? = some last := by
  obtain ⟨dots, last, _, names, _⟩ := leaf.step.names
  exact ⟨last, by rw [names, List.getLast?_concat]⟩

namespace FileTree

variable {tree middle later : FileTree} {path parent : String} {atomic : Bool}

/-- The place that a file is put at: the path itself, or what the path leads
to. -/
def spot (tree : FileTree) (atomic : Bool) (path : String) : Except FileFault Place :=
  if atomic then tree.own path else tree.find path

theorem spot_lasts (extended : Extends tree later) (atomic : Bool) (path : String) :
    Lasts later (tree.spot atomic path) (later.spot atomic path) := by
  cases atomic with
  | true => exact own_lasts extended path
  | false => exact find_lasts extended path

theorem find_eq_walk (leaf : Path.Leaf path parent)
    (accepted : Route.ofPath path = .ok (Route.ofText path)) (tree : FileTree) :
    tree.find path = tree.walk true (Route.ofText path) (Route.ofText path).names := by
  rw [find_of_accepted accepted, Route.through, leaf.endsClosed]
  rfl

/-- The last name of the path is looked up in its directory. -/
theorem own_of_lookIn (leaf : Path.Leaf path parent) {directory : Location}
    (stands : tree.StandsAt parent directory)
    (accepted : Route.ofPath path = .ok (Route.ofText path)) {last : String}
    (isLast : (Route.ofText path).names.getLast? = some last) :
    tree.own path = tree.lookIn directory last :=
  own_of_standsAt leaf.step stands accepted isLast (fun dot => leaf.notDot (by rw [isLast, dot]))
    (fun up => leaf.notUp (by rw [isLast, up]))

/-- What is put at a place. -/
def putAt (tree : FileTree) (atomic : Bool) (content : Content) :
    Except FileFault Place → Except FileFault FileTree
  | .error fault => .error fault
  | .ok (.vacant directory name) => .ok (tree.put (directory ++ [name]) (.file content))
  | .ok (.existing location (.file _)) => .ok (tree.put location (.file content))
  | .ok (.existing _ .directory) => .error .isDirectory
  | .ok (.existing location (.link _)) =>
      if atomic then .ok (tree.put location (.file content)) else .error .tooManyLinks

theorem writeInPlace_eq (leaf : Path.Leaf path parent) (tree : FileTree) (content : Content) :
    tree.writeInPlace path content = tree.putAt false content (tree.find path) := by
  rw [writeInPlace]
  rcases accepted_or_refused path with accepted | ⟨fault, refused⟩
  · rw [find_eq_walk leaf accepted, accepted]
    simp only [bind, Except.bind, leaf.endsClosed, Bool.false_eq_true, if_false]
    cases tree.walk true (Route.ofText path) (Route.ofText path).names with
    | error fault => rfl
    | ok place =>
        cases place with
        | vacant => rfl
        | existing location entry => cases entry <;> rfl
  · rw [find, refused]
    rfl

theorem replaceFile_eq (leaf : Path.Leaf path parent) (stands : tree.Stands parent)
    (content : Content) :
    tree.replaceFile path content = tree.putAt true content (tree.own path) := by
  rw [replaceFile]
  rcases accepted_or_refused path with accepted | ⟨fault, refused⟩
  · obtain ⟨directory, found⟩ := stands
    obtain ⟨last, isLast⟩ := leaf.exists_last
    have notDot : last ≠ "." := fun dot => leaf.notDot (by rw [isLast, dot])
    have notUp : last ≠ ".." := fun up => leaf.notUp (by rw [isLast, up])
    rw [accepted, own_of_lookIn leaf found accepted isLast, lookIn]
    simp only [bind, Except.bind, walk_toParent leaf.step found, isLast, leaf.endsClosed,
      Bool.false_eq_true, if_false]
    by_cases long : Route.longestName < last.utf8ByteSize
    · simp only [if_pos long]
      rfl
    simp only [if_neg long]
    cases child : tree.get? (directory ++ [last]) with
    | none => rfl
    | some entry => cases entry <;> rfl
  · rw [own, refused]
    rfl

/-- A file is only put in place of another in a directory that is there. -/
theorem stands_of_replaceFile (leaf : Path.Leaf path parent) {content : Content}
    {after : FileTree} (replaced : tree.replaceFile path content = .ok after) :
    tree.Stands parent := by
  rw [replaceFile] at replaced
  rcases accepted_or_refused path with accepted | ⟨fault, refused⟩
  · rw [accepted] at replaced
    cases walked : tree.walk true (Route.ofText path) (Route.ofText path).toParent with
    | error fault => simp [bind, Except.bind, walked] at replaced
    | ok place =>
        obtain ⟨dots, last, _, names, _⟩ := leaf.step.names
        rw [Route.toParent, names, List.dropLast_concat, walk_eq, start_of_stepUp leaf.step,
          List.append_assoc] at walked
        obtain ⟨directory, walkedThere⟩ := exists_directory_of_append (by simp) walked
        exact ⟨directory, walkedThere⟩
  · rw [refused] at replaced
    cases replaced

/-! ## The place of a file -/

/-- In either way, a place is found by a walk that does not depend on the
tree. -/
theorem exists_walk_of_accepted (accepted : Route.ofPath path = .ok (Route.ofText path))
    (atomic : Bool) : ∃ followLast names, (∀ name ∈ names, name ≠ "" ∧ '/' ∉ name.toList) ∧
      ∀ tree : FileTree, tree.spot atomic path = tree.walk followLast (Route.ofText path) names := by
  cases atomic with
  | true => exact ⟨false, _, fun _ => Route.whole_of_mem_names, fun _ => own_of_accepted accepted⟩
  | false => exact ⟨true, _, fun _ => Route.whole_of_mem_through, fun _ => find_of_accepted accepted⟩

theorem accepted_of_spot {place : Place} (found : tree.spot atomic path = .ok place) :
    Route.ofPath path = .ok (Route.ofText path) := by
  cases atomic with
  | true => exact accepted_of_own found
  | false => exact accepted_of_find found

theorem get?_of_spot {location : Location} {entry : Entry}
    (found : tree.spot atomic path = .ok (.existing location entry)) :
    tree.get? location = some entry := by
  obtain ⟨followLast, names, _, walks⟩ :=
    exists_walk_of_accepted (accepted_of_spot found) atomic
  rw [walks, walk_eq] at found
  exact get?_of_existing found

theorem isPlace_of_spot {directory : Location} {name : String}
    (found : tree.spot atomic path = .ok (.vacant directory name)) :
    tree.get? (directory ++ [name]) = none ∧ tree.IsPlace (directory ++ [name]) := by
  obtain ⟨followLast, names, whole, walks⟩ :=
    exists_walk_of_accepted (accepted_of_spot found) atomic
  rw [walks, walk_eq] at found
  exact ⟨(free_of_passage (passage_of_vacant found)).1, isPlace_of_vacant found whole⟩

theorem spot_of_vacant {directory : Location} {name : String} {entry : Entry}
    (found : tree.spot atomic path = .ok (.vacant directory name)) (extended : Extends tree later)
    (there : later.get? (directory ++ [name]) = some entry) :
    later.spot atomic path = .ok (.existing (directory ++ [name]) entry) := by
  obtain ⟨followLast, names, whole, walks⟩ :=
    exists_walk_of_accepted (accepted_of_spot found) atomic
  have lasts := spot_lasts extended atomic path
  rw [found, walks later, walk_eq] at lasts
  rw [walks, walk_eq]
  exact lasts.of_vacant there

/-- Where the path itself is a file, it also leads there. -/
theorem find_of_spot (leaf : Path.Leaf path parent) {location : Location} {content : Content}
    (found : tree.spot atomic path = .ok (.existing location (.file content))) :
    tree.find path = .ok (.existing location (.file content)) := by
  cases atomic with
  | false => exact found
  | true =>
      have own : tree.own path = .ok (.existing location (.file content)) := found
      have accepted := accepted_of_own own
      rw [find_eq_walk leaf accepted]
      exact walk_of_own own accepted (by rw [isLink, own])

/-- A place for a file is found in a directory that is there. -/
theorem stands_of_spot (leaf : Path.Leaf path parent) {place : Place}
    (found : tree.spot atomic path = .ok place) : tree.Stands parent := by
  have accepted := accepted_of_spot found
  suffices ownPlace : ∃ here, tree.own path = .ok here by
    obtain ⟨here, own⟩ := ownPlace
    exact stands_of_stepUp leaf.step own
  cases own : tree.own path with
  | ok here => exact ⟨here, rfl⟩
  | error fault =>
      cases atomic with
      | true =>
          rw [spot, if_pos rfl, own] at found
          cases found
      | false =>
          have walked := walk_of_own own accepted (by rw [isLink, own])
          have find : tree.find path = .ok place := found
          rw [find_eq_walk leaf accepted, walked] at find
          cases find

/-- In a directory that is there, nothing is missing but the end of a link that is
followed. -/
theorem link_of_spot_missing (leaf : Path.Leaf path parent) (stands : tree.Stands parent)
    (missing : tree.spot atomic path = .error .noSuchEntry) :
    atomic = false ∧ tree.isLink path = true := by
  rcases accepted_or_refused path with accepted | ⟨fault, refused⟩
  · have own := own_below_ne_noSuchEntry leaf.step accepted stands leaf.notUp
    cases atomic with
    | true => exact absurd missing own
    | false =>
        refine ⟨rfl, ?_⟩
        cases link : tree.isLink path with
        | true => rfl
        | false =>
            have found : tree.find path = .error .noSuchEntry := missing
            rw [find_eq_walk leaf accepted, walk_of_own rfl accepted link] at found
            exact absurd found own
  · have nonempty := Route.ofPath_ne_noSuchEntry leaf.step.ne_empty
    have spotted : tree.spot atomic path = .error fault := by
      cases atomic <;> simp [spot, own, find, refused, bind, Except.bind]
    rw [missing] at spotted
    cases spotted
    exact absurd refused nonempty

/-- A file that is put at the path comes to lie at the location. -/
inductive Receives (tree : FileTree) (atomic : Bool) (path : String) : Location → Prop where
  | vacant {directory : Location} {name : String}
      (found : tree.spot atomic path = .ok (.vacant directory name)) :
      Receives tree atomic path (directory ++ [name])
  | file {location : Location} {content : Content}
      (found : tree.spot atomic path = .ok (.existing location (.file content))) :
      Receives tree atomic path location
  /-- The link is replaced. -/
  | link {location : Location} {target : String} (replaces : atomic = true)
      (found : tree.spot atomic path = .ok (.existing location (.link target))) :
      Receives tree atomic path location

theorem receives_of_putAt {content : Content} {after : FileTree}
    (stored : tree.putAt atomic content (tree.spot atomic path) = .ok after) :
    ∃ location, tree.Receives atomic path location ∧
      after = tree.put location (.file content) := by
  cases found : tree.spot atomic path with
  | error fault => simp [found, putAt] at stored
  | ok place =>
      rw [found] at stored
      cases place with
      | vacant directory name =>
          cases stored
          exact ⟨_, .vacant found, rfl⟩
      | existing location entry =>
          cases entry with
          | directory => cases stored
          | file other =>
              cases stored
              exact ⟨_, .file found, rfl⟩
          | link target =>
              simp only [putAt] at stored
              split at stored
              next replaces =>
                  cases stored
                  exact ⟨_, .link replaces found, rfl⟩
              next => cases stored

section Receives

variable {location : Location} (receives : tree.Receives atomic path location)

include receives

theorem Receives.place :
    ∃ place, tree.spot atomic path = .ok place ∧ place.location = location := by
  cases receives with
  | vacant found => exact ⟨_, found, rfl⟩
  | file found => exact ⟨_, found, rfl⟩
  | link _ found => exact ⟨_, found, rfl⟩

theorem Receives.free : tree.get? location ≠ some .directory := by
  cases receives with
  | vacant found => simp [(isPlace_of_spot found).1]
  | file found => simp [get?_of_spot found]
  | link _ found => simp [get?_of_spot found]

theorem Receives.isPlace (formed : tree.WellFormed) : tree.IsPlace location := by
  have proper := ne_nil_of_get? receives.free
  cases receives with
  | vacant found => exact (isPlace_of_spot found).2
  | file found => exact formed.isPlace (get?_of_spot found) proper
  | link _ found => exact formed.isPlace (get?_of_spot found) proper

theorem Receives.evolves (content : Content) : Evolves tree (tree.put location (.file content)) :=
  evolves_put_file receives.free content

/-- Only a link at the path itself can be replaced. -/
theorem Receives.keepsLinks (direct : atomic = false) (content : Content) :
    KeepsLinks tree (tree.put location (.file content)) := by
  intro other target there
  have different : other ≠ location := by
    rintro rfl
    cases receives with
    | vacant found => simp [(isPlace_of_spot found).1] at there
    | file found => simp [get?_of_spot found] at there
    | link replaces => simp [direct] at replaces
  rw [get?_put_of_ne tree _ different, there]

/-- A file that replaces no link is found where it was put. -/
theorem Receives.found {content : Content}
    (keeps : KeepsLinks tree (tree.put location (.file content))) :
    (tree.put location (.file content)).spot atomic path =
      .ok (.existing location (.file content)) := by
  have extended : Extends tree (tree.put location (.file content)) :=
    ⟨receives.evolves content, keeps⟩
  have proper := ne_nil_of_get? receives.free
  have there := get?_put_self tree (.file content) proper
  cases receives with
  | vacant found => exact spot_of_vacant found extended there
  | file found =>
      have lasts := spot_lasts extended atomic path
      rw [found] at lasts
      obtain ⟨other, foundLater, thereLater⟩ := lasts.of_file
      rw [there] at thereLater
      cases thereLater
      exact foundLater
  | link _ found =>
      have replaced := keeps _ _ (get?_of_spot found)
      rw [there] at replaced
      cases replaced

end Receives

/-- A file that may replace a link comes to lie in the directory of the path,
under the last name. -/
theorem Receives.inDirectory {location directory : Location} {last : String}
    (receives : tree.Receives true path location) (leaf : Path.Leaf path parent)
    (stands : tree.StandsAt parent directory)
    (isLast : (Route.ofText path).names.getLast? = some last) :
    Route.ofPath path = .ok (Route.ofText path) ∧ location = directory ++ [last] ∧
      last.utf8ByteSize ≤ Route.longestName := by
  obtain ⟨place, found, located⟩ := receives.place
  have accepted := accepted_of_own found
  have looked : tree.spot true path = tree.lookIn directory last :=
    own_of_lookIn leaf stands accepted isLast
  rw [found] at looked
  obtain ⟨there, short⟩ := location_of_lookIn looked.symm
  exact ⟨accepted, located ▸ there, short⟩

/-- A file that has been put stays where it is found, as long as its directory
does, and the links that it was put through. -/
theorem Receives.still {location : Location} {content : Content}
    (receives : tree.Receives atomic path location) (leaf : Path.Leaf path parent)
    (evolves : Evolves (tree.put location (.file content)) later) (stands : later.Stands parent)
    (keeps : atomic = false → KeepsLinks (tree.put location (.file content)) later) :
    ∃ other, later.spot atomic path = .ok (.existing location (.file other)) ∧
      later.get? location = some (.file other) := by
  have proper := ne_nil_of_get? receives.free
  cases atomic with
  | false =>
      have lasts := spot_lasts ⟨evolves, keeps rfl⟩ false path
      rw [receives.found (receives.keepsLinks rfl content)] at lasts
      exact lasts.of_file
  | true =>
      obtain ⟨last, isLast⟩ := leaf.exists_last
      obtain ⟨place, found, _⟩ := receives.place
      obtain ⟨directory, before⟩ := stands_of_stepUp leaf.step found
      have now := before.still ((receives.evolves content).trans evolves) stands
      obtain ⟨accepted, rfl, short⟩ := receives.inDirectory leaf before isLast
      obtain ⟨other, there⟩ := evolves.file (get?_put_self tree (.file content) proper)
      refine ⟨other, ?_, there⟩
      rw [spot, if_pos rfl, own_of_lookIn leaf now accepted isLast, lookIn, if_neg (by omega),
        there]

end FileTree

namespace GeneratedFile

variable {file : GeneratedFile} {tree middle later after : FileTree} {path parent base : String}
  {atomic : Bool}

theorem store_eq (leaf : Path.Leaf path parent) (stands : tree.Stands parent)
    (file : GeneratedFile) (atomic : Bool) :
    file.store tree path atomic =
      tree.putAt atomic (.text file.content) (tree.spot atomic path) := by
  rw [store]
  cases atomic with
  | true => exact FileTree.replaceFile_eq leaf stands _
  | false => exact FileTree.writeInPlace_eq leaf tree _

theorem receives_of_store (leaf : Path.Leaf path parent)
    (stored : file.store tree path atomic = .ok after) :
    ∃ location, tree.Receives atomic path location ∧
      after = tree.put location (.file (.text file.content)) := by
  apply FileTree.receives_of_putAt
  rw [store] at stored
  cases atomic with
  | true =>
      rw [← stored]
      exact (FileTree.replaceFile_eq leaf (FileTree.stands_of_replaceFile leaf stored) _).symm
  | false =>
      rw [← stored]
      exact (FileTree.writeInPlace_eq leaf tree _).symm

/-! ## The ends of a write -/

/-- The directory cannot be made, the file cannot be put there, or it is. -/
inductive Written (file : GeneratedFile) (tree : FileTree) (path parent : String)
    (atomic : Bool) : Except Error String × FileTree → Prop where
  | noDirectory {fault : FileFault} {after : FileTree}
      (failed : tree.createDirectories parent = (.error fault, after)) :
      Written file tree path parent atomic
        (.error (.directoryCreate parent fault.message), after)
  | refused {fault : FileFault} {middle : FileTree}
      (made : tree.createDirectories parent = (.ok (), middle))
      (failed : file.store middle path atomic = .error fault) :
      Written file tree path parent atomic (.error (.fileWrite path fault.message), middle)
  | stored {middle after : FileTree}
      (made : tree.createDirectories parent = (.ok (), middle))
      (done : file.store middle path atomic = .ok after) :
      Written file tree path parent atomic (.ok path, after)

section Write

variable (leaf : Path.Leaf (Path.join base file.path) parent)

include leaf

theorem write_eq (tree : FileTree) (atomic : Bool) :
    file.write tree base atomic =
      match tree.createDirectories parent with
      | (.error fault, tree) => (.error (.directoryCreate parent fault.message), tree)
      | (.ok (), tree) =>
          match file.store tree (Path.join base file.path) atomic with
          | .ok tree => (.ok (Path.join base file.path), tree)
          | .error fault => (.error (.fileWrite (Path.join base file.path) fault.message), tree) := by
  rw [write]
  split
  next nothing =>
      rw [leaf.above] at nothing
      cases nothing
  next found isParent =>
      rw [leaf.above] at isParent
      cases isParent
      rfl

theorem written (tree : FileTree) (atomic : Bool) :
    Written file tree (Path.join base file.path) parent atomic (file.write tree base atomic) := by
  rw [write_eq leaf]
  cases made : tree.createDirectories parent with
  | mk result middle =>
      cases result with
      | error fault => exact .noDirectory made
      | ok =>
          simp only
          cases stored : file.store middle (Path.join base file.path) atomic with
          | error fault => exact .refused made stored
          | ok after => exact .stored made stored

variable (tidied : Path.IsTidy parent)

include tidied

/-- A write that fails makes directories only. -/
theorem grows_of_write_error {error : Error}
    (failed : file.write tree base atomic = (.error error, after)) : tree.Grows after := by
  have ends := written leaf tree atomic
  rw [failed] at ends
  cases ends with
  | noDirectory stuck =>
      have grown := FileTree.createDirectories_grows tidied tree
      rwa [stuck] at grown
  | refused made _ =>
      have grown := FileTree.createDirectories_grows tidied tree
      rwa [made] at grown

/-- A write that succeeds makes directories and puts the file. -/
theorem receives_of_write_ok {place : String}
    (done : file.write tree base atomic = (.ok place, after)) :
    place = Path.join base file.path ∧ ∃ middle location, tree.Grows middle ∧
      middle.Receives atomic (Path.join base file.path) location ∧
      after = middle.put location (.file (.text file.content)) := by
  have ends := written leaf tree atomic
  rw [done] at ends
  cases ends with
  | @stored middle _ made stored =>
      have grown := FileTree.createDirectories_grows tidied tree
      rw [made] at grown
      obtain ⟨location, receives, put⟩ := receives_of_store leaf stored
      exact ⟨rfl, middle, location, grown, receives, put⟩

end Write

/-! ## The second write -/

/-- Where a directory has been made, the reasons not to put a file there
stay. -/
theorem store_error_of_extends (leaf : Path.Leaf path parent) {fault : FileFault}
    (stands : middle.Stands parent) (extended : FileTree.Extends middle later)
    (failed : file.store middle path atomic = .error fault)
    (rests : atomic = false → middle.isLink path = true →
      middle.find path = .error .noSuchEntry → later.find path = .error .noSuchEntry) :
    file.store later path atomic = .error fault := by
  have lasts := FileTree.spot_lasts extended atomic path
  rw [store_eq leaf stands] at failed
  rw [store_eq leaf (stands.of_extends extended)]
  cases found : middle.spot atomic path with
  | error other =>
      rw [found] at failed lasts
      cases failed
      by_cases missing : fault = .noSuchEntry
      · subst missing
        obtain ⟨rfl, link⟩ := FileTree.link_of_spot_missing leaf stands found
        rw [show later.spot false path = _ from rests rfl link found]
        rfl
      · rw [lasts.of_error missing]
        rfl
  | ok place =>
      rw [found] at failed lasts
      cases place with
      | vacant directory name => cases failed
      | existing location entry =>
          cases entry with
          | file other => cases failed
          | directory =>
              rw [lasts.of_directory]
              exact failed
          | link target =>
              rw [lasts.of_link]
              simp only [FileTree.putAt] at failed ⊢
              split at failed
              next => cases failed
              next direct =>
                  rw [if_neg direct]
                  exact failed

/-- Where the file is found in its directory, it is written once more. -/
theorem write_of_spot (leaf : Path.Leaf (Path.join base file.path) parent)
    (tidied : Path.IsTidy parent) {location : Location} {other : Content}
    (stands : tree.Stands parent)
    (found : tree.spot atomic (Path.join base file.path) = .ok (.existing location (.file other))) :
    file.write tree base atomic =
      (.ok (Path.join base file.path), tree.put location (.file (.text file.content))) := by
  have accepted := FileTree.accepted_of_spot found
  rw [write_eq leaf, FileTree.createDirectories_of_stands tidied stands
    (Route.ofPath_of_beginning accepted leaf.step.beginning)]
  simp only
  rw [store_eq leaf stands, found]
  rfl

/-- In the same directory, the reasons not to replace a file stay. -/
theorem store_error_still (leaf : Path.Leaf path parent) {directory : Location}
    {fault : FileFault} (stands : middle.StandsAt parent directory)
    (still : later.StandsAt parent directory) (evolves : FileTree.Evolves middle later)
    (failed : file.store middle path true = .error fault) :
    file.store later path true = .error fault := by
  rw [store_eq leaf ⟨directory, stands⟩, FileTree.spot, if_pos rfl] at failed
  rw [store_eq leaf ⟨directory, still⟩, FileTree.spot, if_pos rfl]
  rcases FileTree.accepted_or_refused path with accepted | ⟨other, refused⟩
  · obtain ⟨last, isLast⟩ := leaf.exists_last
    rw [FileTree.own_of_lookIn leaf stands accepted isLast, FileTree.lookIn] at failed
    rw [FileTree.own_of_lookIn leaf still accepted isLast, FileTree.lookIn]
    by_cases long : Route.longestName < last.utf8ByteSize
    · rw [if_pos long] at failed ⊢
      exact failed
    rw [if_neg long] at failed ⊢
    cases child : middle.get? (directory ++ [last]) with
    | none =>
        rw [child] at failed
        cases failed
    | some entry =>
        rw [child] at failed
        cases entry with
        | file | link => cases failed
        | directory =>
            rw [evolves.directory child]
            exact failed
  · rw [FileTree.own, refused] at failed ⊢
    exact failed

section Again

variable {top : String} (leaf : Path.Leaf (Path.join base file.path) parent)
  (isAt : FileTree.IsAt top parent) (formed : tree.WellFormed)

include leaf isAt formed

/-- A file that could not be put cannot be put later either. -/
theorem write_error_again {error : Error}
    (first : file.write tree base atomic = (.error error, after))
    (extended : FileTree.Extends after later) (closed : after.Blocked top → later = after)
    (rests : later.isLink parent = true → tree.IsMissing parent → later.IsMissing parent)
    (fileRests : atomic = false → later.isLink (Path.join base file.path) = true →
      tree.find (Path.join base file.path) = .error .noSuchEntry →
        later.find (Path.join base file.path) = .error .noSuchEntry)
    (noUp : ".." ∉ (Route.ofText top).names ∨ ¬ after.Blocked top) :
    file.write later base atomic = (.error error, later) := by
  have ends := written leaf tree atomic
  rw [first] at ends
  rw [write_eq leaf]
  cases ends with
  | noDirectory failed =>
      rw [FileTree.createDirectories_stable isAt formed failed extended closed rests noUp]
  | refused made failed =>
      have grown := FileTree.createDirectories_grows isAt.isTidy tree
      rw [made] at grown
      have stands := FileTree.stands_of_createDirectories isAt.isTidy formed.started made
      have failedLater := store_error_of_extends leaf stands extended failed (by
        intro direct link missing
        exact fileRests direct (FileTree.isLink_of_extends extended link)
          (FileTree.noSuchEntry_of_extends grown.toExtends missing))
      rw [FileTree.createDirectories_again isAt.isTidy made extended]
      simp only [failedLater]

/-- The same of a write that may replace links, as long as the output directory
is still there. -/
theorem write_error_still {error : Error}
    (first : file.write tree base true = (.error error, after))
    (evolves : FileTree.Evolves after later) (unblocked : ¬ after.Blocked top)
    (stands : later.Stands top)
    (steady : parent ≠ top → ∀ given, given = tree ∨ given = after → ∀ location entry,
      given.own parent = .ok (.existing location entry) →
        later.isDirectory parent = given.isDirectory parent) :
    file.write later base true = (.error error, later) := by
  have ends := written leaf tree true
  rw [first] at ends
  rw [write_eq leaf]
  cases ends with
  | noDirectory failed =>
      rw [FileTree.createDirectories_still isAt formed failed evolves unblocked stands steady]
  | refused made failed =>
      have again :=
        FileTree.createDirectories_still isAt formed made evolves unblocked stands steady
      obtain ⟨directory, found⟩ :=
        FileTree.stands_of_createDirectories isAt.isTidy formed.started made
      have grown := FileTree.createDirectories_grows isAt.isTidy tree
      rw [made] at grown
      have started : later.get? later.workingDirectory = some .directory := by
        rw [evolves.workingDirectory]
        exact evolves.directory (grown.wellFormed formed).started
      have still := found.still evolves
        (FileTree.stands_of_createDirectories isAt.isTidy started again)
      rw [again]
      simp only [store_error_still leaf found still evolves failed]

omit formed in
/-- In a tree where the directory cannot be made, nothing is written. -/
theorem write_of_blocked (blocked : tree.Blocked top) (atomic : Bool) :
    ∃ error, file.write tree base atomic = (.error error, tree) := by
  obtain ⟨fault, failed⟩ := isAt.blocked blocked
  rw [write_eq leaf, failed]
  exact ⟨_, rfl⟩

end Again

end GeneratedFile

end FormRules
