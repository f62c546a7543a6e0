import FormRules.Proofs.FileTree.Walk
import FormRules.Proofs.Path

/-!
Contract: what paths lead to in a file tree.

Owns:
- the place of a path itself, and the place it leads to through links;
- the directory above a place that has been found;
- the answers that later trees still give.

Does not own: changes to a tree.
-/

namespace FormRules

/-! ## Accepted paths -/

namespace Route

theorem eq_ofText_of_ofPath {path : String} {route : Route} (accepted : ofPath path = .ok route) :
    route = ofText path := by
  unfold ofPath at accepted
  split at accepted
  · cases accepted
  split at accepted
  · cases accepted
  split at accepted
  · cases accepted
  · exact (Except.ok.inj accepted).symm

theorem ofPath_eq_ok_iff {path : String} :
    ofPath path = .ok (ofText path) ↔
      '\x00' ∉ path.toList ∧ path ≠ "" ∧ path.utf8ByteSize ≤ longestPath := by
  unfold ofPath
  by_cases zero : '\x00' ∈ path.toList
  · simp [zero]
  by_cases empty : path = ""
  · simp [empty]
  by_cases long : longestPath < path.utf8ByteSize
  · simp [zero, empty, long]
  · simp [zero, empty, long, Nat.le_of_not_lt long]

theorem ofPath_ne_noSuchEntry {path : String} (filled : path ≠ "") :
    ofPath path ≠ .error .noSuchEntry := by
  unfold ofPath
  rw [if_neg filled]
  split
  · simp
  · split <;> simp

theorem utf8ByteSize_le_of_beginning {beginning whole : String}
    (isPrefix : beginning.toList <+: whole.toList) :
    beginning.utf8ByteSize ≤ whole.utf8ByteSize := by
  obtain ⟨rest, together⟩ := isPrefix
  have split : whole = beginning ++ String.ofList rest := by
    rw [← String.toList_inj, String.toList_append, String.toList_ofList, together]
  rw [split, String.utf8ByteSize_append]
  omega

/-- The beginning of an accepted path is accepted, unless it is empty. -/
theorem ofPath_of_beginning {beginning path : String} (accepted : ofPath path = .ok (ofText path))
    (isPrefix : beginning.toList <+: path.toList) (filled : beginning ≠ "") :
    ofPath beginning = .ok (ofText beginning) := by
  rw [ofPath_eq_ok_iff] at accepted ⊢
  refine ⟨?_, filled, ?_⟩
  · intro zero
    exact accepted.1 (isPrefix.subset zero)
  · exact Nat.le_trans (utf8ByteSize_le_of_beginning isPrefix) accepted.2.2

end Route

/-- Where a place is, whether there is anything at it or not. -/
def Place.location : Place → Location
  | .existing location _ => location
  | .vacant directory name => directory ++ [name]

namespace FileTree

/-! ## The place of a path -/

/-- Where a walk along a route starts. -/
def start (tree : FileTree) (route : Route) : Location :=
  if route.absolute then [] else tree.workingDirectory

theorem walk_eq (tree : FileTree) (followLast : Bool) (route : Route) (names : List String) :
    tree.walk followLast route names =
      tree.walkFrom followLast linkLimit (tree.start route) names :=
  rfl

/-- The place of a path itself: a link in the last place is not followed. -/
def own (tree : FileTree) (path : String) : Except FileFault Place := do
  let route ← Route.ofPath path
  tree.walk false route route.names

/-- There is a link at the path. -/
def isLink (tree : FileTree) (path : String) : Bool :=
  match tree.own path with
  | .ok (.existing _ (.link _)) => true
  | _ => false

/-- Something is missing where the names of the path lead, or on the way there. -/
def IsMissing (tree : FileTree) (path : String) : Prop :=
  Missing (tree.walk true (Route.ofText path) (Route.ofText path).names)

variable {tree later : FileTree} {path : String}

theorem own_of_accepted (accepted : Route.ofPath path = .ok (Route.ofText path)) :
    tree.own path = tree.walk false (Route.ofText path) (Route.ofText path).names := by
  rw [own, accepted]
  rfl

theorem find_of_accepted (accepted : Route.ofPath path = .ok (Route.ofText path)) :
    tree.find path = tree.walk true (Route.ofText path) (Route.ofText path).through := by
  rw [find, accepted]
  rfl

theorem accepted_or_refused (path : String) :
    Route.ofPath path = .ok (Route.ofText path) ∨ ∃ fault, Route.ofPath path = .error fault := by
  cases accepted : Route.ofPath path with
  | error fault => exact .inr ⟨fault, rfl⟩
  | ok route => exact .inl (by rw [Route.eq_ofText_of_ofPath accepted])

theorem accepted_of_own {place : Place} (found : tree.own path = .ok place) :
    Route.ofPath path = .ok (Route.ofText path) := by
  rcases accepted_or_refused path with accepted | ⟨fault, refused⟩
  · exact accepted
  · rw [own, refused] at found
    cases found

theorem accepted_of_find {place : Place} (found : tree.find path = .ok place) :
    Route.ofPath path = .ok (Route.ofText path) := by
  rcases accepted_or_refused path with accepted | ⟨fault, refused⟩
  · exact accepted
  · rw [find, refused] at found
    cases found

/-- A slash at the end asks for a directory, and for nothing more. -/
theorem walk_through (tree : FileTree) (route : Route) :
    tree.walk true route route.through = tree.walk true route route.names ∨
      ((∀ location entry, entry ≠ .directory →
          tree.walk true route route.through ≠ .ok (.existing location entry)) ∧
        (∀ directory name, tree.walk true route route.through ≠ .ok (.vacant directory name)) ∧
        ∀ location, tree.walk true route route.through = .ok (.existing location .directory) ↔
          tree.walk true route route.names = .ok (.existing location .directory)) := by
  cases endsOpen : route.endsOpen with
  | false => exact .inl (by rw [Route.through, endsOpen]; rfl)
  | true =>
      have through : route.through = route.names ++ ["."] := by
        rw [Route.through, endsOpen]
        rfl
      refine .inr ?_
      rw [through, walk_eq, walk_eq]
      rcases walkFrom_append tree linkLimit (tree.start route) route.names with
        ⟨left, reached, further, here⟩ | ⟨fault, further, here⟩
      · rw [further true ["."] (by simp), here, walkFrom_cons, walkFrom_nil]
        cases there : tree.get? reached with
        | none => simp [passage, there]
        | some entry =>
            cases entry with
            | directory =>
                rw [passage_dot there]
                simp only [walkFrom_nil, there]
                refine ⟨?_, by simp, by simp⟩
                intro location entry other same
                cases same
                exact other rfl
            | file content => simp [passage, there]
            | link target => simp [passage, there]
      · rw [further true ["."] (by simp)]
        refine ⟨by simp, by simp, ?_⟩
        intro location
        rcases here with here | ⟨_, directory, name, here⟩ <;> simp [here]

theorem isDirectory_iff :
    tree.isDirectory path = true ↔
      Route.ofPath path = .ok (Route.ofText path) ∧
        ∃ location, tree.walk true (Route.ofText path) (Route.ofText path).names =
          .ok (.existing location .directory) := by
  rcases accepted_or_refused path with accepted | ⟨fault, refused⟩
  · rw [isDirectory, find_of_accepted accepted]
    simp only [accepted, true_and]
    have same : ∀ location, tree.walk true (Route.ofText path) (Route.ofText path).through =
        .ok (.existing location .directory) ↔
        tree.walk true (Route.ofText path) (Route.ofText path).names =
          .ok (.existing location .directory) := by
      rcases walk_through tree (Route.ofText path) with equal | ⟨_, _, same⟩
      · rw [equal]
        exact fun _ => Iff.rfl
      · exact same
    simp only [← same]
    split
    next location found => simp [found]
    next other =>
      refine iff_of_false (by simp) ?_
      rintro ⟨location, found⟩
      exact other location found
  · simp [isDirectory, find, refused, bind, Except.bind]

/-! ## Later trees -/

section Later

variable (extended : Extends tree later)

include extended

theorem walk_lasts (followLast : Bool) (route : Route) (names : List String) :
    Lasts later (tree.walk followLast route names) (later.walk followLast route names) := by
  rw [walk_eq, walk_eq, start, start, extended.workingDirectory]
  exact walkFrom_lasts extended followLast linkLimit _ names

theorem own_lasts (path : String) : Lasts later (tree.own path) (later.own path) := by
  rcases accepted_or_refused path with accepted | ⟨fault, refused⟩
  · rw [own_of_accepted accepted, own_of_accepted accepted]
    exact walk_lasts extended false _ _
  · rw [own, own, refused]
    by_cases final : fault = .noSuchEntry
    · rw [final]
      exact .missing _
    · exact .refused final

theorem find_lasts (path : String) : Lasts later (tree.find path) (later.find path) := by
  rcases accepted_or_refused path with accepted | ⟨fault, refused⟩
  · rw [find_of_accepted accepted, find_of_accepted accepted]
    exact walk_lasts extended true _ _
  · rw [find, find, refused]
    by_cases final : fault = .noSuchEntry
    · rw [final]
      exact .missing _
    · exact .refused final

theorem isDirectory_of_extends (found : tree.isDirectory path = true) :
    later.isDirectory path = true := by
  rw [isDirectory_iff] at found ⊢
  obtain ⟨accepted, location, walked⟩ := found
  have lasts := walk_lasts extended true (Route.ofText path) (Route.ofText path).names
  rw [walked] at lasts
  exact ⟨accepted, location, lasts.of_directory⟩

theorem isLink_of_extends (link : tree.isLink path = true) : later.isLink path = true := by
  have lasts := own_lasts extended path
  rw [isLink] at link ⊢
  split at link
  next location target found =>
      rw [found] at lasts
      rw [lasts.of_link]
  next => cases link

/-- What is missing in the end has been missing before. -/
theorem isMissing_of_extends (missing : later.IsMissing path) : tree.IsMissing path :=
  (walk_lasts extended true _ _).missing_before missing

theorem noSuchEntry_of_extends (missing : later.find path = .error .noSuchEntry) :
    tree.find path = .error .noSuchEntry := by
  have lasts := find_lasts extended path
  rw [missing] at lasts
  generalize tree.find path = answer at lasts
  cases lasts with
  | missing => rfl
  | refused final => exact absurd rfl final

end Later

/-! ## Links in the last place -/

/-- Where there is no link, a path leads to its own place. -/
theorem walk_of_own {answer : Except FileFault Place} (found : tree.own path = answer)
    (accepted : Route.ofPath path = .ok (Route.ofText path))
    (noLink : tree.isLink path = false) :
    tree.walk true (Route.ofText path) (Route.ofText path).names = answer := by
  rw [own_of_accepted accepted] at found
  apply walkFrom_true_of_false found
  rintro location target rfl
  rw [isLink, own_of_accepted accepted, found] at noLink
  cases noLink

/-- Whatever a path leads to through links, there is something at its own
place. -/
theorem own_of_walk {location : Location} {entry : Entry}
    (walked : tree.walk true (Route.ofText path) (Route.ofText path).names =
      .ok (.existing location entry))
    (accepted : Route.ofPath path = .ok (Route.ofText path)) :
    ∃ place here, tree.own path = .ok (.existing place here) := by
  cases found : tree.own path with
  | error fault =>
      have noLink : tree.isLink path = false := by rw [isLink, found]
      rw [walk_of_own found accepted noLink] at walked
      cases walked
  | ok place =>
      cases place with
      | existing place here => exact ⟨place, here, rfl⟩
      | vacant directory name =>
          have noLink : tree.isLink path = false := by rw [isLink, found]
          rw [walk_of_own found accepted noLink] at walked
          cases walked

/-! ## Directories -/

/-- The names of the path lead to a directory, at the location. -/
def StandsAt (tree : FileTree) (path : String) (location : Location) : Prop :=
  tree.walk true (Route.ofText path) (Route.ofText path).names =
    .ok (.existing location .directory)

/-- There is a directory where the names of the path lead.  Unlike
`isDirectory`, this allows for the empty path, which stays where it is. -/
def Stands (tree : FileTree) (path : String) : Prop :=
  ∃ location, tree.StandsAt path location

theorem isDirectory_iff_stands :
    tree.isDirectory path = true ↔
      Route.ofPath path = .ok (Route.ofText path) ∧ tree.Stands path :=
  isDirectory_iff

/-- What is at the path itself, unless it is a link, settles whether the path
leads to a directory. -/
theorem isDirectory_iff_of_own {location : Location} {entry : Entry}
    (found : tree.own path = .ok (.existing location entry))
    (noLink : ∀ target, entry ≠ .link target) :
    tree.isDirectory path = true ↔ entry = .directory := by
  have accepted := accepted_of_own found
  have notLink : tree.isLink path = false := by
    rw [isLink, found]
    cases entry with
    | link target => exact absurd rfl (noLink target)
    | directory | file => rfl
  rw [isDirectory_iff, walk_of_own found accepted notLink]
  constructor
  · rintro ⟨_, place, same⟩
    cases same
    rfl
  · rintro rfl
    exact ⟨accepted, location, rfl⟩

theorem StandsAt.directory {location : Location} (stands : tree.StandsAt path location) :
    tree.get? location = some .directory :=
  get?_of_existing stands

theorem StandsAt.walkFrom {location : Location} (stands : tree.StandsAt path location) :
    tree.walkFrom true linkLimit (tree.start (Route.ofText path)) (Route.ofText path).names =
      .ok (.existing location .directory) :=
  stands

theorem StandsAt.not_isMissing {location : Location} (stands : tree.StandsAt path location) :
    ¬ tree.IsMissing path := by
  rw [StandsAt] at stands
  simp [IsMissing, stands, Missing]

theorem StandsAt.unique {location other : Location} (stands : tree.StandsAt path location)
    (again : tree.StandsAt path other) : other = location := by
  rw [StandsAt, stands] at again
  cases again
  rfl

theorem StandsAt.of_extends {location : Location} (stands : tree.StandsAt path location)
    (extended : Extends tree later) : later.StandsAt path location := by
  have lasts := walk_lasts extended true (Route.ofText path) (Route.ofText path).names
  rw [stands] at lasts
  exact lasts.of_directory

theorem Stands.of_extends (stands : tree.Stands path) (extended : Extends tree later) :
    later.Stands path := by
  obtain ⟨location, found⟩ := stands
  exact ⟨location, found.of_extends extended⟩

section Evolution

variable (evolves : Evolves tree later)

include evolves

theorem start_of_evolves (route : Route) : later.start route = tree.start route := by
  rw [start, start, evolves.workingDirectory]

/-- A directory that is there in the end was there before, if there was any way
to it. -/
theorem StandsAt.before {location : Location} (stands : later.StandsAt path location) :
    tree.StandsAt path location ∨ tree.IsMissing path := by
  rw [StandsAt, walk_eq, start_of_evolves evolves] at stands
  exact walkFrom_before evolves stands

theorem not_missing_of_walk {followLast : Bool} {route : Route} {names : List String}
    {location : Location} {entry : Entry}
    (walked : tree.walk followLast route names = .ok (.existing location entry)) :
    ¬ Missing (later.walk followLast route names) := by
  rw [walk_eq, start_of_evolves evolves]
  exact not_missing_of_existing evolves walked

/-- As long as a path leads to a directory, it leads to the same one. -/
theorem StandsAt.still {location : Location} (stands : tree.StandsAt path location)
    (there : later.Stands path) : later.StandsAt path location := by
  obtain ⟨other, found⟩ := there
  rcases found.before evolves with before | missing
  · rw [stands.unique before] at found
    exact found
  · exact absurd missing stands.not_isMissing

end Evolution

theorem StandsAt.between {middle : FileTree} {location : Location}
    (stands : tree.StandsAt path location) (there : later.Stands path)
    (before : Evolves tree middle) (after : Evolves middle later) :
    middle.StandsAt path location := by
  have found := stands.still (before.trans after) there
  rcases found.before after with here | missing
  · exact here
  · exact absurd missing (not_missing_of_walk before stands)

/-! ## One name in a directory -/

/-- What is in a directory by a proper name. -/
def lookIn (tree : FileTree) (directory : Location) (name : String) : Except FileFault Place :=
  if Route.longestName < name.utf8ByteSize then .error .nameTooLong
  else
    match tree.get? (directory ++ [name]) with
    | none => .ok (.vacant directory name)
    | some entry => .ok (.existing (directory ++ [name]) entry)

theorem location_of_lookIn {directory : Location} {name : String} {place : Place}
    (looked : tree.lookIn directory name = .ok place) :
    place.location = directory ++ [name] ∧ name.utf8ByteSize ≤ Route.longestName := by
  unfold lookIn at looked
  split at looked
  next => cases looked
  next short =>
    refine ⟨?_, by omega⟩
    split at looked <;> cases looked <;> rfl

/-- The walk along one proper name looks it up. -/
theorem walkFrom_single {directory : Location} {name : String}
    (there : tree.get? directory = some .directory) (notDot : name ≠ ".") (notUp : name ≠ "..")
    (links : Nat) : tree.walkFrom false links directory [name] = tree.lookIn directory name := by
  rw [walkFrom_cons, passage_of_plain there notDot notUp, lookIn]
  by_cases long : Route.longestName < name.utf8ByteSize
  · simp only [if_pos long]
  simp only [if_neg long]
  cases child : tree.get? (directory ++ [name]) with
  | none => rfl
  | some entry =>
      cases entry with
      | link target => rfl
      | directory | file content => simp only [walkFrom_nil, child]

/-! ## One step up -/

theorem walkFrom_dots {dots : List String} (areDots : ∀ dot ∈ dots, dot = ".")
    {location : Location} (there : tree.get? location = some .directory) (followLast : Bool)
    (links : Nat) (rest : List String) :
    tree.walkFrom followLast links location (dots ++ rest) =
      tree.walkFrom followLast links location rest := by
  induction dots with
  | nil => rfl
  | cons dot dots inductionHypothesis =>
      rw [areDots dot (by simp), List.cons_append, walkFrom_cons, passage_dot there]
      exact inductionHypothesis fun other member => areDots other (by simp [member])

section StepUp

variable {parent : String} (step : Path.StepUp path parent)

include step

theorem start_of_stepUp (tree : FileTree) :
    tree.start (Route.ofText path) = tree.start (Route.ofText parent) := by
  rw [start, start, step.absolute]

/-- Above a place that has been found there is a directory. -/
theorem stands_of_stepUp {place : Place} (found : tree.own path = .ok place) :
    tree.Stands parent := by
  obtain ⟨dots, last, _, names, _⟩ := step.names
  rw [own_of_accepted (accepted_of_own found), walk_eq, start_of_stepUp step, names,
    List.append_assoc] at found
  obtain ⟨directory, walked⟩ := exists_directory_of_append (by simp) found
  exact ⟨directory, walked⟩

section Standing

variable {directory : Location} (stands : tree.StandsAt parent directory)

include stands

/-- The last name of a path is passed in the directory above. -/
theorem walk_of_standsAt :
    ∃ last left, (Route.ofText path).names.getLast? = some last ∧
      (Path.isIdle last = false ∨ parent = "") ∧
      ∀ followLast, tree.walk followLast (Route.ofText path) (Route.ofText path).names =
        tree.walkFrom followLast left directory [last] := by
  obtain ⟨dots, last, areDots, names, busy⟩ := step.names
  obtain ⟨left, further⟩ := walkFrom_append_of_existing stands.walkFrom
  refine ⟨last, left, by rw [names, List.getLast?_concat], busy, ?_⟩
  intro followLast
  rw [walk_eq, start_of_stepUp step, names, List.append_assoc, further followLast _ (by simp),
    walkFrom_dots areDots stands.directory]

theorem own_of_standsAt (accepted : Route.ofPath path = .ok (Route.ofText path)) {last : String}
    (isLast : (Route.ofText path).names.getLast? = some last) (notDot : last ≠ ".")
    (notUp : last ≠ "..") : tree.own path = tree.lookIn directory last := by
  obtain ⟨name, left, isName, _, further⟩ := walk_of_standsAt step stands
  rw [isLast] at isName
  cases isName
  rw [own_of_accepted accepted, further, walkFrom_single stands.directory notDot notUp]

/-- The way to the directory that the last name is in. -/
theorem walk_toParent :
    tree.walk true (Route.ofText path) (Route.ofText path).toParent =
      .ok (.existing directory .directory) := by
  obtain ⟨dots, last, areDots, names, _⟩ := step.names
  obtain ⟨left, further⟩ := walkFrom_append_of_existing stands.walkFrom
  rw [Route.toParent, names, List.dropLast_concat, walk_eq, start_of_stepUp step,
    List.append_assoc, further true _ (by simp), walkFrom_dots areDots stands.directory,
    walkFrom_cons, passage_dot stands.directory]
  simp only [walkFrom_nil, stands.directory]

end Standing

end StepUp

end FileTree

end FormRules
