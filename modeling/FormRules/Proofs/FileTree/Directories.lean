import FormRules.FileTree.Write
import FormRules.Proofs.FileTree.Growth

/-!
Contract: the directories that are made for a path.

Owns:
- a single directory: when it is made, and when that fails;
- the directories above a path: the tree only grows by them;
- what a second attempt comes to, in the tree that the first one has left or
  in a later one.

Does not own: the files that go into the directories.
-/

namespace FormRules.FileTree

open FormRules.Path (StepUp)

variable {tree middle later : FileTree} {path parent : String}

/-! ## A single directory -/

theorem passage_ne_alreadyExists (tree : FileTree) (location : Location) (name : String) :
    tree.passage location name ≠ .refused .alreadyExists := by
  unfold passage
  repeat' split
  all_goals simp

theorem walkFrom_ne_alreadyExists (tree : FileTree) (followLast : Bool) (links : Nat)
    (location : Location) (names : List String) :
    tree.walkFrom followLast links location names ≠ .error .alreadyExists := by
  induction links, location, names using walk_induction tree with
  | nil links location =>
      rw [walkFrom_nil]
      cases tree.get? location <;> simp
  | cons links location name rest onward byLink =>
      rw [walkFrom_cons]
      cases passed : tree.passage location name with
      | refused fault =>
          rintro same
          cases same
          exact passage_ne_alreadyExists tree location name passed
      | free =>
          simp only
          split <;> simp
      | onward next => exact onward next passed
      | link target =>
          simp only
          split
          · simp
          · cases links with
            | zero => simp
            | succ fewer => exact byLink target fewer passed rfl

theorem own_ne_alreadyExists (tree : FileTree) (path : String) :
    tree.own path ≠ .error .alreadyExists := by
  rcases accepted_or_refused path with accepted | ⟨fault, refused⟩
  · rw [own_of_accepted accepted]
    exact walkFrom_ne_alreadyExists tree false linkLimit _ _
  · rw [own, refused]
    rintro same
    cases same
    unfold Route.ofPath at refused
    repeat' split at refused
    all_goals cases refused

/-- Whether a directory is there, can be made, or cannot, is read off its own
place. -/
theorem requireDirectory_eq (tree : FileTree) (path : String) :
    tree.requireDirectory path =
      match tree.own path with
      | .error fault => .error fault
      | .ok (.vacant directory name) => .ok (tree.put (directory ++ [name]) .directory)
      | .ok (.existing _ _) => if tree.isDirectory path then .ok tree else .error .alreadyExists := by
  have made : tree.makeDirectory path =
      match tree.own path with
      | .error fault => .error fault
      | .ok (.vacant directory name) => .ok (tree.put (directory ++ [name]) .directory)
      | .ok (.existing _ _) => .error .alreadyExists := by
    rw [makeDirectory, own]
    cases Route.ofPath path with
    | error fault => rfl
    | ok route =>
        show (tree.walk false route route.names >>= _) = _
        cases walked : tree.walk false route route.names with
        | error fault => simp [bind, Except.bind, walked]
        | ok place => cases place <;> simp [bind, Except.bind, walked]
  rw [requireDirectory, made]
  cases found : tree.own path with
  | error fault =>
      cases fault with
      | alreadyExists => exact absurd found (own_ne_alreadyExists tree path)
      | _ => rfl
  | ok place => cases place <;> rfl

theorem existing_of_isDirectory (found : tree.isDirectory path = true) :
    ∃ location entry, tree.own path = .ok (.existing location entry) := by
  obtain ⟨accepted, location, walked⟩ := isDirectory_iff.1 found
  exact own_of_walk walked accepted

theorem requireDirectory_of_isDirectory (found : tree.isDirectory path = true) :
    tree.requireDirectory path = .ok tree := by
  obtain ⟨location, entry, existing⟩ := existing_of_isDirectory found
  rw [requireDirectory_eq, existing]
  simp only [found, if_true]

theorem own_put_of_vacant {directory : Location} {name : String} {entry : Entry}
    (found : tree.own path = .ok (.vacant directory name))
    (extended : Extends tree (tree.put (directory ++ [name]) entry)) :
    (tree.put (directory ++ [name]) entry).own path =
      .ok (.existing (directory ++ [name]) entry) := by
  have accepted := accepted_of_own found
  have lasts := own_lasts extended path
  rw [found, own_of_accepted accepted, walk_eq] at lasts
  rw [own_of_accepted accepted, walk_eq]
  exact lasts.of_vacant (get?_put_self tree entry (by simp))

/-- The tree is left as it is or grows by the directory, which is there
then. -/
theorem requireDirectory_ok {after : FileTree} (made : tree.requireDirectory path = .ok after) :
    Grows tree after ∧ after.isDirectory path = true := by
  rw [requireDirectory_eq] at made
  cases found : tree.own path with
  | error fault => simp [found] at made
  | ok place =>
      have accepted := accepted_of_own found
      cases place with
      | existing location entry =>
          simp only [found] at made
          split at made
          next there =>
              cases made
              exact ⟨.refl, there⟩
          next => cases made
      | vacant directory name =>
          simp only [found, Except.ok.injEq] at made
          subst made
          have walked := found
          rw [own_of_accepted accepted, walk_eq] at walked
          have absent := (free_of_passage (passage_of_vacant walked)).1
          have existing := own_put_of_vacant found (extends_put_directory absent)
          refine ⟨.made .refl absent (isPlace_of_vacant walked
            fun name => Route.whole_of_mem_names), ?_⟩
          refine isDirectory_iff.2 ⟨accepted, directory ++ [name], ?_⟩
          exact walk_of_own existing accepted (by rw [isLink, existing])

theorem accepted_of_requireDirectory {after : FileTree}
    (made : tree.requireDirectory path = .ok after) :
    Route.ofPath path = .ok (Route.ofText path) := by
  rw [requireDirectory_eq] at made
  cases found : tree.own path with
  | error fault => simp [found] at made
  | ok place => exact accepted_of_own found

theorem stands_of_requireDirectory {after : FileTree} (step : StepUp path parent)
    (made : tree.requireDirectory path = .ok after) : tree.Stands parent := by
  rw [requireDirectory_eq] at made
  cases found : tree.own path with
  | error fault => simp [found] at made
  | ok place => exact stands_of_stepUp step found

/-- A directory that cannot be made cannot be made later either, unless
something was missing on the way to it or at the end of a link. -/
theorem requireDirectory_error_of_extends {fault : FileFault} (extended : Extends tree later)
    (failed : tree.requireDirectory path = .error fault) (final : fault ≠ .noSuchEntry)
    (rests : tree.isLink path = true → tree.IsMissing path → later.IsMissing path) :
    later.requireDirectory path = .error fault := by
  have lasts := own_lasts extended path
  rw [requireDirectory_eq] at failed ⊢
  cases found : tree.own path with
  | error other =>
      simp only [found, Except.error.injEq] at failed lasts
      subst failed
      rw [lasts.of_error final]
  | ok place =>
      cases place with
      | vacant directory name => simp [found] at failed
      | existing location entry =>
          have accepted := accepted_of_own found
          simp only [found] at failed lasts
          split at failed
          next => cases failed
          next notThere =>
              cases failed
              suffices notLater : later.isDirectory path = false by
                generalize later.own path = answer at lasts
                cases lasts with
                | existing => simp [notLater]
              rw [Bool.eq_false_iff, ne_eq, isDirectory_iff_stands]
              rintro ⟨_, directory, stands⟩
              rcases stands.before extended.toEvolves with before | missing
              · exact notThere (isDirectory_iff_stands.2 ⟨accepted, directory, before⟩)
              · cases link : tree.isLink path with
                | true => exact stands.not_isMissing (rests link missing)
                | false => simp [IsMissing, Missing, walk_of_own found accepted link] at missing

/-! ## The directories above a path -/

/-- How the attempt to make a directory below another one goes. -/
inductive Attempt (tree : FileTree) (path parent : String) :
    Except FileFault Unit × FileTree → Prop where
  | made {after : FileTree} (done : tree.requireDirectory path = .ok after) :
      Attempt tree path parent (.ok (), after)
  | refused {fault : FileFault} (failed : tree.requireDirectory path = .error fault)
      (final : fault ≠ .noSuchEntry) : Attempt tree path parent (.error fault, tree)
  /-- What is missing cannot be made. -/
  | stuck {fault : FileFault} {after : FileTree}
      (missing : tree.requireDirectory path = .error .noSuchEntry)
      (above : tree.createDirectories parent = (.error fault, after)) :
      Attempt tree path parent (.error fault, after)
  | madeThen {middle after : FileTree}
      (missing : tree.requireDirectory path = .error .noSuchEntry)
      (above : tree.createDirectories parent = (.ok (), middle))
      (done : middle.requireDirectory path = .ok after) : Attempt tree path parent (.ok (), after)
  | refusedThen {middle : FileTree} {fault : FileFault}
      (missing : tree.requireDirectory path = .error .noSuchEntry)
      (above : tree.createDirectories parent = (.ok (), middle))
      (failed : middle.requireDirectory path = .error fault) :
      Attempt tree path parent (.error fault, middle)

theorem createDirectories_of_bare (bare : Path.ancestors path = [path]) (tree : FileTree) :
    tree.createDirectories path = (.ok (), tree) := by
  rw [createDirectories, bare, requireAll]

section Below

variable (step : StepUp path parent)
  (parts : Path.ancestors path = path :: Path.ancestors parent)

include step parts

theorem createDirectories_below (tree : FileTree) :
    tree.createDirectories path =
      match tree.requireDirectory path with
      | .ok tree => (.ok (), tree)
      | .error .noSuchEntry =>
          match tree.createDirectories parent with
          | (.error fault, tree) => (.error fault, tree)
          | (.ok (), tree) =>
              match tree.requireDirectory path with
              | .ok tree => (.ok (), tree)
              | .error fault => (.error fault, tree)
      | .error fault => (.error fault, tree) := by
  obtain ⟨above, parentParts⟩ := Path.exists_ancestors parent
  rw [createDirectories, createDirectories, parts, parentParts]
  exact if_neg step.ne_empty

theorem createDirectories_of_refused {fault : FileFault}
    (failed : tree.requireDirectory path = .error fault) (final : fault ≠ .noSuchEntry) :
    tree.createDirectories path = (.error fault, tree) := by
  rw [createDirectories_below step parts, failed]
  cases fault with
  | noSuchEntry => exact absurd rfl final
  | _ => rfl

theorem createDirectories_of_unaccepted {fault : FileFault}
    (unaccepted : Route.ofPath path = .error fault) (tree : FileTree) :
    tree.createDirectories path = (.error fault, tree) := by
  apply createDirectories_of_refused step parts
  · rw [requireDirectory_eq, own, unaccepted]
    rfl
  · rintro rfl
    exact Route.ofPath_ne_noSuchEntry step.ne_empty unaccepted

theorem attempt (tree : FileTree) : Attempt tree path parent (tree.createDirectories path) := by
  rw [createDirectories_below step parts]
  cases first : tree.requireDirectory path with
  | ok after => exact .made first
  | error fault =>
      by_cases missing : fault = .noSuchEntry
      · subst missing
        cases above : tree.createDirectories parent with
        | mk result middle =>
            cases result with
            | error fault => exact .stuck first above
            | ok =>
                simp only
                cases second : middle.requireDirectory path with
                | ok after => exact .madeThen first above second
                | error fault => exact .refusedThen first above second
      · cases fault with
        | noSuchEntry => exact absurd rfl missing
        | _ => exact .refused first missing

end Below

section Tidy

variable (tidied : Path.IsTidy path)

include tidied

/-- Whatever the attempt comes to, only directories are new. -/
theorem createDirectories_grows (tree : FileTree) : Grows tree (tree.createDirectories path).2 := by
  induction tidied using Path.tidy_induction generalizing tree with
  | top path _ bare parts =>
      rw [createDirectories_of_bare parts]
      exact .refl
  | below path parent _ step parts inductionHypothesis =>
      cases attempted : tree.createDirectories path with
      | mk result after =>
          have attempt := attempt step parts tree
          rw [attempted] at attempt
          cases attempt with
          | made done => exact (requireDirectory_ok done).1
          | refused => exact .refl
          | stuck missing above =>
              have grown := inductionHypothesis tree
              rwa [above] at grown
          | madeThen missing above done =>
              have grown := inductionHypothesis tree
              rw [above] at grown
              exact grown.trans (requireDirectory_ok done).1
          | refusedThen missing above failed =>
              have grown := inductionHypothesis tree
              rwa [above] at grown

theorem stands_of_createDirectories {after : FileTree}
    (started : tree.get? tree.workingDirectory = some .directory)
    (made : tree.createDirectories path = (.ok (), after)) : after.Stands path := by
  cases tidied using Path.tidy_induction with
  | top path _ bare parts =>
      rw [createDirectories_of_bare parts] at made
      cases made
      rcases bare with rfl | rfl
      · refine ⟨tree.workingDirectory, ?_⟩
        show tree.walkFrom true linkLimit tree.workingDirectory [] = _
        rw [walkFrom_nil, started]
      · refine ⟨[], ?_⟩
        show tree.walkFrom true linkLimit [] [] = _
        rw [walkFrom_nil, get?, if_pos rfl]
  | below path parent _ step parts _ =>
      have attempt := attempt step parts tree
      rw [made] at attempt
      cases attempt with
      | made done => exact (isDirectory_iff.1 (requireDirectory_ok done).2).2
      | madeThen _ _ done => exact (isDirectory_iff.1 (requireDirectory_ok done).2).2

/-- Where all directories are there, none has to be made. -/
theorem createDirectories_of_stands (stands : tree.Stands path)
    (accepted : path ≠ "" → Route.ofPath path = .ok (Route.ofText path)) :
    tree.createDirectories path = (.ok (), tree) := by
  cases tidied using Path.tidy_induction with
  | top path _ bare parts => exact createDirectories_of_bare parts tree
  | below path parent _ step parts _ =>
      have there := isDirectory_iff.2 ⟨accepted step.ne_empty, stands⟩
      rw [createDirectories_below step parts, requireDirectory_of_isDirectory there]

/-- What has been made once is there from then on. -/
theorem createDirectories_again {after : FileTree}
    (made : tree.createDirectories path = (.ok (), after)) (extended : Extends after later) :
    later.createDirectories path = (.ok (), later) := by
  cases tidied using Path.tidy_induction with
  | top path _ bare parts => exact createDirectories_of_bare parts later
  | below path parent _ step parts _ =>
      have there : after.isDirectory path = true := by
        have attempt := attempt step parts tree
        rw [made] at attempt
        cases attempt with
        | made done => exact (requireDirectory_ok done).2
        | madeThen _ _ done => exact (requireDirectory_ok done).2
      rw [createDirectories_below step parts,
        requireDirectory_of_isDirectory (isDirectory_of_extends extended there)]

end Tidy

/-! ## Directories that cannot be made -/

/-- The attempt to make the directory fails and leaves the tree as it is. -/
def Blocked (tree : FileTree) (path : String) : Prop :=
  ∃ fault, tree.createDirectories path = (.error fault, tree)

/-- Nothing can be made below a directory that cannot be made. -/
theorem Blocked.below (blocked : tree.Blocked parent) (step : StepUp path parent)
    (parts : Path.ancestors path = path :: Path.ancestors parent) : tree.Blocked path := by
  obtain ⟨fault, failed⟩ := blocked
  cases attempted : tree.createDirectories path with
  | mk result after =>
      have attempt := attempt step parts tree
      rw [attempted] at attempt
      cases attempt with
      | made done =>
          have stands := stands_of_requireDirectory step done
          have accepted := Route.ofPath_of_beginning (accepted_of_requireDirectory done) step.beginning
          rw [createDirectories_of_stands step.tidy stands accepted] at failed
          cases failed
      | refused => exact ⟨_, attempted⟩
      | stuck missing above =>
          rw [failed] at above
          cases above
          exact ⟨fault, attempted⟩
      | madeThen missing above done =>
          rw [failed] at above
          cases above
      | refusedThen missing above =>
          rw [failed] at above
          cases above

/-- An attempt that fails leaves a tree in which it always fails. -/
theorem blocked_of_failed (tidied : Path.IsTidy path) {fault : FileFault} {after : FileTree}
    (failed : tree.createDirectories path = (.error fault, after)) : after.Blocked path := by
  induction tidied using Path.tidy_induction generalizing tree fault after with
  | top path _ bare parts =>
      rw [createDirectories_of_bare parts] at failed
      cases failed
  | below path parent _ step parts inductionHypothesis =>
      have attempt := attempt step parts tree
      rw [failed] at attempt
      cases attempt with
      | refused => exact ⟨fault, failed⟩
      | stuck missing above => exact (inductionHypothesis above).below step parts
      | refusedThen missing above failedThen =>
          have again := createDirectories_again step.tidy above (.refl after)
          refine ⟨fault, ?_⟩
          by_cases missingStill : fault = .noSuchEntry
          · rw [createDirectories_below step parts, failedThen, missingStill]
            simp only [again, failedThen, missingStill]
          · exact createDirectories_of_refused step parts failedThen missingStill

/-! ## The same failure again -/

section Below

variable (step : StepUp path parent) (accepted : Route.ofPath path = .ok (Route.ofText path))

include step accepted

/-- Right below a directory, a name is too long, free or taken. -/
theorem own_of_stands (stands : tree.Stands parent)
    (noUp : (Route.ofText path).names.getLast? ≠ some "..") :
    ∃ directory, tree.StandsAt parent directory ∧
      (tree.own path = .error .nameTooLong ∨
        (∃ name, tree.own path = .ok (.vacant directory name)) ∨
        ∃ location entry, tree.own path = .ok (.existing location entry) ∧
          (parent ≠ "" → ∃ name, tree.get? (directory ++ [name]) = some entry)) := by
  obtain ⟨directory, found⟩ := stands
  obtain ⟨last, left, isLast, busy, further⟩ := walk_of_standsAt step found
  refine ⟨directory, found, ?_⟩
  by_cases dot : last = "."
  · rw [own_of_accepted accepted, further, walkFrom_cons, dot, passage_dot found.directory]
    simp only [walkFrom_nil, found.directory]
    refine .inr (.inr ⟨directory, .directory, rfl, ?_⟩)
    intro filled
    rcases busy with busy | empty
    · rw [dot] at busy
      cases busy
    · exact absurd empty filled
  have notUp : last ≠ ".." := by
    rintro rfl
    exact noUp isLast
  rw [own_of_standsAt step found accepted isLast dot notUp, lookIn]
  split
  next => exact .inl rfl
  next =>
    split
    next => exact .inr (.inl ⟨last, rfl⟩)
    next entry child => exact .inr (.inr ⟨_, entry, rfl, fun _ => ⟨last, child⟩⟩)

theorem own_below_ne_noSuchEntry (stands : tree.Stands parent)
    (noUp : (Route.ofText path).names.getLast? ≠ some "..") :
    tree.own path ≠ .error .noSuchEntry := by
  obtain ⟨_, _, tooLong | ⟨name, vacant⟩ | ⟨location, entry, existing, _⟩⟩ :=
    own_of_stands step accepted stands noUp
  · simp [tooLong]
  · simp [vacant]
  · simp [existing]

theorem own_below_of_nameTooLong (failed : tree.own parent = .error .nameTooLong) :
    tree.own path = .error .nameTooLong := by
  have filled : parent ≠ "" := by
    rintro rfl
    cases failed
  have parentAccepted := Route.ofPath_of_beginning accepted step.beginning filled
  have walked := walk_of_own failed parentAccepted (by rw [isLink, failed])
  obtain ⟨dots, last, _, names, _⟩ := step.names
  rw [own_of_accepted accepted, walk_eq, start_of_stepUp step, names, List.append_assoc]
  rw [walk_eq] at walked
  rcases walkFrom_append tree linkLimit (tree.start (Route.ofText parent))
      (Route.ofText parent).names with ⟨left, reached, _, here⟩ | ⟨fault, further, here⟩
  · rw [here, walkFrom_nil] at walked
    split at walked <;> cases walked
  · rw [further false _ (by simp)]
    rcases here with here | ⟨_, directory, name, here⟩
    · rw [← here, walked]
    · rw [here] at walked
      cases walked

end Below

theorem accepted_of_missing (missing : tree.requireDirectory path = .error .noSuchEntry)
    (filled : path ≠ "") : Route.ofPath path = .ok (Route.ofText path) := by
  rcases accepted_or_refused path with accepted | ⟨fault, refused⟩
  · exact accepted
  · rw [requireDirectory_eq, own, refused] at missing
    cases missing
    exact absurd refused (Route.ofPath_ne_noSuchEntry filled)

/-- There is a directory with nothing in it. -/
def StandsEmpty (tree : FileTree) (path : String) : Prop :=
  ∃ location, tree.StandsAt path location ∧ ∀ name, tree.get? (location ++ [name]) = none

theorem standsEmpty_of_vacant {directory : Location} {name : String}
    (formed : tree.WellFormed) (found : tree.own path = .ok (.vacant directory name)) :
    (tree.put (directory ++ [name]) .directory).StandsEmpty path := by
  have accepted := accepted_of_own found
  have walked := found
  rw [own_of_accepted accepted, walk_eq] at walked
  have absent := (free_of_passage (passage_of_vacant walked)).1
  have existing := own_put_of_vacant found (extends_put_directory absent)
  refine ⟨directory ++ [name], walk_of_own existing accepted (by rw [isLink, existing]), ?_⟩
  intro child
  rw [get?_put_of_ne tree _ (by simp)]
  exact formed.absent_below (by rw [absent]; simp) child

theorem own_of_standsEmpty (step : StepUp path parent)
    (accepted : Route.ofPath path = .ok (Route.ofText path)) (stands : tree.StandsEmpty parent)
    (filled : parent ≠ "") (noUp : (Route.ofText path).names.getLast? ≠ some "..") :
    tree.own path = .error .nameTooLong ∨
      ∃ directory name, tree.own path = .ok (.vacant directory name) := by
  obtain ⟨location, walked, empty⟩ := stands
  obtain ⟨directory, walkedAgain, tooLong | ⟨name, vacant⟩ | ⟨_, entry, _, child⟩⟩ :=
    own_of_stands step accepted ⟨location, walked⟩ noUp
  · exact .inl tooLong
  · exact .inr ⟨directory, name, vacant⟩
  · obtain ⟨name, there⟩ := child filled
    rw [walked.unique walkedAgain, empty] at there
    cases there

/-- A directory that had to be made is empty. -/
theorem standsEmpty_of_createDirectories {after : FileTree} (tidied : Path.IsTidy path)
    (formed : tree.WellFormed) (noUp : ".." ∉ (Route.ofText path).names)
    (made : tree.createDirectories path = (.ok (), after)) :
    after = tree ∨ path ≠ "" ∧ after.StandsEmpty path := by
  induction tidied using Path.tidy_induction generalizing after with
  | top path _ bare parts =>
      rw [createDirectories_of_bare parts] at made
      cases made
      exact .inl rfl
  | below path parent _ step parts inductionHypothesis =>
      have attempt := attempt step parts tree
      rw [made] at attempt
      cases attempt with
      | made done =>
          rw [requireDirectory_eq] at done
          split at done
          next => cases done
          next directory name vacant =>
              cases done
              exact .inr ⟨step.ne_empty, standsEmpty_of_vacant formed vacant⟩
          next =>
              split at done <;> cases done
              exact .inl rfl
      | @madeThen middle _ missing above done =>
          have grown := createDirectories_grows step.tidy tree
          rw [above] at grown
          have accepted := accepted_of_requireDirectory done
          rcases inductionHypothesis (step.noUp noUp) above with same | ⟨filled, stands⟩
          · rw [same, missing] at done
            cases done
          rw [requireDirectory_eq] at done
          split at done
          next => cases done
          next directory name vacant =>
              cases done
              exact .inr ⟨step.ne_empty, standsEmpty_of_vacant (grown.wellFormed formed) vacant⟩
          next location entry existing =>
              rcases own_of_standsEmpty step accepted stands filled
                  (fun up => noUp (List.mem_of_getLast? up)) with tooLong | ⟨_, _, vacant⟩
              · rw [tooLong] at existing
                cases existing
              · rw [vacant] at existing
                cases existing

/-- A failed attempt has made nothing, unless a name was too long; then this is
found at once the next time. -/
theorem createDirectories_failed {fault : FileFault} {after : FileTree}
    (tidied : Path.IsTidy path) (formed : tree.WellFormed)
    (noUp : ".." ∉ (Route.ofText path).names)
    (failed : tree.createDirectories path = (.error fault, after)) :
    after = tree ∨ fault = .nameTooLong ∧ after.own path = .error .nameTooLong := by
  induction tidied using Path.tidy_induction generalizing fault after with
  | top path _ bare parts =>
      rw [createDirectories_of_bare parts] at failed
      cases failed
  | below path parent _ step parts inductionHypothesis =>
      have parentNoUp := step.noUp noUp
      have attempt := attempt step parts tree
      rw [failed] at attempt
      cases attempt with
      | refused => exact .inl rfl
      | stuck missing above =>
          rcases inductionHypothesis parentNoUp above with same | ⟨long, tooLong⟩
          · exact .inl same
          · have accepted := accepted_of_missing missing step.ne_empty
            exact .inr ⟨long, own_below_of_nameTooLong step accepted tooLong⟩
      | refusedThen missing above failedThen =>
          have accepted := accepted_of_missing missing step.ne_empty
          rcases standsEmpty_of_createDirectories step.tidy formed parentNoUp above with
            same | ⟨filled, stands⟩
          · exact .inl same
          · rw [requireDirectory_eq] at failedThen
            rcases own_of_standsEmpty step accepted stands filled
                (fun up => noUp (List.mem_of_getLast? up)) with tooLong | ⟨_, _, vacant⟩
            · rw [tooLong] at failedThen
              cases failedThen
              exact .inr ⟨rfl, tooLong⟩
            · rw [vacant] at failedThen
              cases failedThen

theorem createDirectories_failed_again {fault : FileFault} {after : FileTree}
    (tidied : Path.IsTidy path) (formed : tree.WellFormed)
    (noUp : ".." ∉ (Route.ofText path).names)
    (failed : tree.createDirectories path = (.error fault, after)) :
    after.createDirectories path = (.error fault, after) := by
  rcases createDirectories_failed tidied formed noUp failed with same | ⟨long, tooLong⟩
  · rw [same] at failed ⊢
    exact failed
  · cases tidied using Path.tidy_induction with
    | top path _ bare parts =>
        rw [createDirectories_of_bare parts] at failed
        cases failed
    | below path parent _ step parts _ =>
        rw [long]
        exact createDirectories_of_refused step parts (by rw [requireDirectory_eq, tooLong])
          (by decide)

/-! ## Directories at a base -/

/-- The path is a base, or that of a name without dots right below it. -/
inductive IsAt (base : String) : String → Prop where
  | itself (tidied : Path.IsTidy base) : IsAt base base
  | below {path last : String} (tidied : Path.IsTidy path)
      (above : Path.parent? path = some base)
      (isLast : (Route.ofText path).names.getLast? = some last) (noDot : '.' ∉ last.toList) :
      IsAt base path

theorem getLast?_ne_of_noDot {last : String}
    (isLast : (Route.ofText path).names.getLast? = some last) (noDot : '.' ∉ last.toList)
    (dots : String) (areDots : '.' ∈ dots.toList) : (Route.ofText path).names.getLast? ≠ some dots := by
  rw [isLast]
  intro same
  rw [Option.some.inj same] at noDot
  exact noDot areDots

section Base

variable {base : String} (isAt : IsAt base path)

include isAt

theorem IsAt.isTidy : Path.IsTidy path := by
  cases isAt with
  | itself tidied => exact tidied
  | below tidied => exact tidied

theorem IsAt.ne_empty (inside : path ≠ base) : path ≠ "" := by
  cases isAt with
  | itself => exact absurd rfl inside
  | below tidied above => exact (tidied.stepUp above).ne_empty

/-- Nothing can be made at a base that cannot be made. -/
theorem IsAt.blocked (blocked : tree.Blocked base) : tree.Blocked path := by
  cases isAt with
  | itself => exact blocked
  | below tidied above =>
      exact blocked.below (tidied.stepUp above) (Path.ancestors_of_above tidied above)

/-- The second attempt comes to what the first one has come to: in any later
tree if the base could be made, and otherwise in the tree that the first one
has left. -/
theorem createDirectories_stable {result : Except FileFault Unit} (formed : tree.WellFormed)
    (tried : tree.createDirectories path = (result, middle)) (extended : Extends middle later)
    (closed : middle.Blocked base → later = middle)
    (rests : later.isLink path = true → tree.IsMissing path → later.IsMissing path)
    (noUp : ".." ∉ (Route.ofText base).names ∨ ¬ middle.Blocked base) :
    later.createDirectories path = (result, later) := by
  have grown := createDirectories_grows isAt.isTidy tree
  rw [tried] at grown
  have restsFrom : ∀ other, Extends tree other → Extends other later →
      other.isLink path = true → other.IsMissing path → later.IsMissing path := by
    intro other before after link missing
    exact rests (isLink_of_extends after link) (isMissing_of_extends before missing)
  cases result with
  | ok => exact createDirectories_again isAt.isTidy tried extended
  | error fault =>
      cases isAt with
      | itself tidied =>
          have blocked := blocked_of_failed tidied tried
          rw [closed blocked]
          rcases noUp with noUp | unblocked
          · exact createDirectories_failed_again tidied formed noUp tried
          · exact absurd blocked unblocked
      | below tidied above isLast noDot =>
          have step := tidied.stepUp above
          have notUp := getLast?_ne_of_noDot isLast noDot ".." (by decide)
          have parts := Path.ancestors_of_above tidied above
          have attempt := attempt step parts tree
          rw [tried] at attempt
          cases attempt with
          | refused failed final =>
              exact createDirectories_of_refused step parts
                (requireDirectory_error_of_extends extended failed final
                  (restsFrom tree (.refl tree) extended)) final
          | stuck missing failed =>
              have blocked := blocked_of_failed step.tidy failed
              rw [closed blocked]
              rcases noUp with noUp | unblocked
              · rcases createDirectories_failed step.tidy formed noUp failed with
                  same | ⟨long, tooLong⟩
                · rw [same] at tried ⊢
                  exact tried
                · have accepted := accepted_of_missing missing step.ne_empty
                  have found := own_below_of_nameTooLong step accepted tooLong
                  rw [long]
                  exact createDirectories_of_refused step parts
                    (by rw [requireDirectory_eq, found]) (by decide)
              · exact absurd blocked unblocked
          | refusedThen missing made failed =>
              have accepted := accepted_of_missing missing step.ne_empty
              have stands := stands_of_createDirectories step.tidy formed.started made
              have final : fault ≠ .noSuchEntry := by
                rintro rfl
                apply own_below_ne_noSuchEntry step accepted stands notUp
                rw [requireDirectory_eq] at failed
                split at failed
                next found =>
                    cases failed
                    exact found
                next => cases failed
                next => split at failed <;> cases failed
              exact createDirectories_of_refused step parts
                (requireDirectory_error_of_extends extended failed final
                  (restsFrom middle grown.toExtends extended)) final

end Base

/-! ## Directories at a base that is still there -/

section Below

variable {base : String} (step : StepUp path base)
  (accepted : Route.ofPath path = .ok (Route.ofText path))

include step accepted

theorem own_of_missing
    (missing : tree.IsMissing base) : tree.own path = .error .noSuchEntry := by
  obtain ⟨dots, last, _, names, _⟩ := step.names
  rw [own_of_accepted accepted, walk_eq, start_of_stepUp step, names, List.append_assoc]
  rw [IsMissing, walk_eq] at missing
  rcases walkFrom_append tree linkLimit (tree.start (Route.ofText base))
      (Route.ofText base).names with ⟨left, reached, further, here⟩ | ⟨fault, further, here⟩
  · obtain ⟨first, rest, split⟩ : ∃ first rest, dots ++ [last] = first :: rest :=
      List.exists_cons_of_ne_nil (by simp)
    rw [here, walkFrom_nil] at missing
    rw [further false _ (by simp), split, walkFrom_cons, passage]
    cases there : tree.get? reached with
    | none => rfl
    | some entry => simp [Missing, there] at missing
  · rw [further false _ (by simp)]
    rcases here with here | ⟨same, _⟩
    · rw [here] at missing
      rcases missing with missing | ⟨_, _, vacant⟩
      · exact missing
      · cases vacant
    · rw [same]

/-- In the same directory, a name that could not be used cannot be used
later. -/
theorem requireDirectory_error_still {directory : Location} {fault : FileFault}
    (stands : tree.StandsAt base directory) (still : later.StandsAt base directory)
    (evolves : Evolves tree later) (notDot : (Route.ofText path).names.getLast? ≠ some ".")
    (notUp : (Route.ofText path).names.getLast? ≠ some "..")
    (failed : tree.requireDirectory path = .error fault)
    (steady : ∀ location entry, tree.own path = .ok (.existing location entry) →
      later.isDirectory path = tree.isDirectory path) :
    later.requireDirectory path = .error fault ∧ fault ≠ .noSuchEntry := by
  obtain ⟨last, _, isLast, _⟩ := walk_of_standsAt step stands
  have lastNotDot : last ≠ "." := fun dot => notDot (by rw [isLast, dot])
  have lastNotUp : last ≠ ".." := fun up => notUp (by rw [isLast, up])
  have looked := own_of_standsAt step stands accepted isLast lastNotDot lastNotUp
  have lookedLater := own_of_standsAt step still accepted isLast lastNotDot lastNotUp
  rw [requireDirectory_eq] at failed ⊢
  by_cases long : Route.longestName < last.utf8ByteSize
  · rw [looked, lookIn, if_pos long] at failed
    rw [lookedLater, lookIn, if_pos long]
    cases failed
    exact ⟨rfl, by decide⟩
  rw [lookIn, if_neg long] at looked lookedLater
  cases child : tree.get? (directory ++ [last]) with
  | none =>
      rw [looked, child] at failed
      cases failed
  | some entry =>
      rw [child] at looked
      cases childLater : later.get? (directory ++ [last]) with
      | none =>
          rw [evolves.none_before childLater] at child
          cases child
      | some other =>
          rw [childLater] at lookedLater
          rw [looked] at failed
          rw [lookedLater]
          simp only [steady _ _ looked] at failed ⊢
          split at failed
          next => cases failed
          next notThere =>
              cases failed
              exact ⟨if_neg notThere, by decide⟩

end Below

theorem accepted_of_createDirectories {after : FileTree} (tidied : Path.IsTidy path)
    (made : tree.createDirectories path = (.ok (), after)) (filled : path ≠ "") :
    Route.ofPath path = .ok (Route.ofText path) := by
  cases tidied using Path.tidy_induction with
  | top path _ bare parts =>
      rcases bare with rfl | rfl
      · exact absurd rfl filled
      · exact Route.ofPath_eq_ok_iff.2 (by decide)
  | below path parent _ step parts _ =>
      have attempt := attempt step parts tree
      rw [made] at attempt
      cases attempt with
      | made done => exact accepted_of_requireDirectory done
      | madeThen _ _ done => exact accepted_of_requireDirectory done

/-- The second attempt comes to what the first one has come to, as long as the
base is there and the path leads to a directory or not as before. -/
theorem createDirectories_still {base : String} {result : Except FileFault Unit}
    (isAt : IsAt base path) (formed : tree.WellFormed)
    (tried : tree.createDirectories path = (result, middle)) (evolves : Evolves middle later)
    (unblocked : ¬ middle.Blocked base) (stands : later.Stands base)
    (steady : path ≠ base → ∀ given, given = tree ∨ given = middle → ∀ location entry,
      given.own path = .ok (.existing location entry) →
        later.isDirectory path = given.isDirectory path) :
    later.createDirectories path = (result, later) := by
  cases isAt with
  | itself tidied =>
      cases result with
      | error fault => exact absurd (blocked_of_failed tidied tried) unblocked
      | ok =>
          exact createDirectories_of_stands tidied stands
            (accepted_of_createDirectories tidied tried)
  | below tidied above isLast noDot =>
      have step := tidied.stepUp above
      have parts := Path.ancestors_of_above tidied above
      have notDot := getLast?_ne_of_noDot isLast noDot "." (by decide)
      have notUp := getLast?_ne_of_noDot isLast noDot ".." (by decide)
      have steadyHere := steady step.ne_parent
      rcases (accepted_or_refused path).symm with ⟨fault, refused⟩ | accepted
      · rw [createDirectories_of_unaccepted step parts refused] at tried ⊢
        cases tried
        rfl
      obtain ⟨directory, found⟩ := stands
      have isDone : middle.isDirectory path = true →
          later.createDirectories path = (.ok (), later) := by
        intro there
        obtain ⟨location, entry, existing⟩ := existing_of_isDirectory there
        have thereLater := steadyHere middle (.inr rfl) location entry existing
        rw [there] at thereLater
        rw [createDirectories_below step parts, requireDirectory_of_isDirectory thereLater]
      have attempt := attempt step parts tree
      rw [tried] at attempt
      cases attempt with
      | made done => exact isDone (requireDirectory_ok done).2
      | madeThen _ _ done => exact isDone (requireDirectory_ok done).2
      | refused failed final =>
          rcases found.before evolves with before | missing
          · have again := requireDirectory_error_still step accepted before found evolves notDot
              notUp failed (steadyHere tree (.inl rfl))
            exact createDirectories_of_refused step parts again.1 again.2
          · rw [requireDirectory_eq, own_of_missing step accepted missing] at failed
            cases failed
            exact absurd rfl final
      | stuck missing failed => exact absurd (blocked_of_failed step.tidy failed) unblocked
      | refusedThen missing made failed =>
          obtain ⟨reached, before⟩ := stands_of_createDirectories step.tidy formed.started made
          have again := requireDirectory_error_still step accepted before
            (before.still evolves ⟨directory, found⟩) evolves notDot notUp failed
            (steadyHere middle (.inr rfl))
          exact createDirectories_of_refused step parts again.1 again.2

/-! ## Directories that are there in the end -/

/-- There is a directory at the path; the empty path stays where it is. -/
def HasDirectory (tree : FileTree) (path : String) : Prop :=
  path = "" ∨ tree.isDirectory path = true

theorem HasDirectory.stands (has : tree.HasDirectory path) (formed : tree.WellFormed) :
    tree.Stands path := by
  rcases has with rfl | found
  · refine ⟨tree.workingDirectory, ?_⟩
    show tree.walkFrom true linkLimit tree.workingDirectory [] = _
    rw [walkFrom_nil, formed.started]
  · exact (isDirectory_iff_stands.1 found).2

theorem HasDirectory.of_extends (has : tree.HasDirectory path) (extended : Extends tree later) :
    later.HasDirectory path :=
  has.imp_right (isDirectory_of_extends extended)

/-- The base of a directory that is there is a directory itself. -/
theorem IsAt.hasDirectory {base : String} (isAt : IsAt base path)
    (accepted : path ≠ "" → Route.ofPath path = .ok (Route.ofText path))
    (stands : tree.Stands path) : tree.HasDirectory base := by
  by_cases filled : base = ""
  · exact .inl filled
  cases isAt with
  | itself => exact .inr (isDirectory_iff_stands.2 ⟨accepted filled, stands⟩)
  | below tidied above =>
      have step := tidied.stepUp above
      have acceptedPath := accepted step.ne_empty
      obtain ⟨location, entry, existing⟩ :=
        existing_of_isDirectory (isDirectory_iff_stands.2 ⟨acceptedPath, stands⟩)
      exact .inr (isDirectory_iff_stands.2
        ⟨Route.ofPath_of_beginning acceptedPath step.beginning filled,
          stands_of_stepUp step existing⟩)

theorem Stands.not_blocked (stands : tree.Stands path) (tidied : Path.IsTidy path)
    (accepted : path ≠ "" → Route.ofPath path = .ok (Route.ofText path)) :
    ¬ tree.Blocked path := by
  rintro ⟨fault, failed⟩
  rw [createDirectories_of_stands tidied stands accepted] at failed
  cases failed

theorem HasDirectory.not_blocked (has : tree.HasDirectory path) (formed : tree.WellFormed)
    (tidied : Path.IsTidy path) : ¬ tree.Blocked path := by
  refine (has.stands formed).not_blocked tidied ?_
  intro filled
  exact (isDirectory_iff.1 (has.resolve_left filled)).1

/-- A path right below a base that is there in the end leads to a directory all
the time or never, once there is anything at the path.  In between no link may
be lost at the path, and no directory that it has led to in the beginning. -/
theorem isDirectory_steady {base : String} (step : StepUp path base)
    (before : Evolves tree middle) (after : Evolves middle later) (stands : later.Stands base)
    {last : String} (isLast : (Route.ofText path).names.getLast? = some last)
    (noDot : '.' ∉ last.toList)
    (keepsLink : ∀ directory target, middle.get? (directory ++ [last]) = some (.link target) →
      later.get? (directory ++ [last]) = some (.link target))
    (keepsDirectory : tree.isDirectory path = true → later.isDirectory path = true)
    (rests : later.isLink path = true → tree.IsMissing path → later.IsMissing path)
    {location : Location} {entry : Entry}
    (existing : middle.own path = .ok (.existing location entry)) :
    later.isDirectory path = middle.isDirectory path := by
  have accepted := accepted_of_own existing
  have notDot : last ≠ "." := by
    rintro rfl
    exact noDot (by decide)
  have notUp : last ≠ ".." := by
    rintro rfl
    exact noDot (by decide)
  obtain ⟨directory, found⟩ := stands_of_stepUp step existing
  have looked := own_of_standsAt step found accepted isLast notDot notUp
  have lookedLater :=
    own_of_standsAt step (found.still after stands) accepted isLast notDot notUp
  rw [existing] at looked
  obtain ⟨rfl, short⟩ := location_of_lookIn looked.symm
  have there : middle.get? (directory ++ [last]) = some entry := by
    have walked := existing
    rw [own_of_accepted accepted, walk_eq] at walked
    exact get?_of_existing walked
  have ownLater : ∀ other, later.get? (directory ++ [last]) = some other →
      later.own path = .ok (.existing (directory ++ [last]) other) := by
    intro other thereLater
    rw [lookedLater, lookIn, if_neg (by omega), thereLater]
  cases entry with
  | directory =>
      rw [(isDirectory_iff_of_own existing (by simp)).2 rfl,
        (isDirectory_iff_of_own (ownLater _ (after.directory there)) (by simp)).2 rfl]
  | file content =>
      obtain ⟨other, thereLater⟩ := after.file there
      rw [Bool.eq_iff_iff, isDirectory_iff_of_own existing (by simp),
        isDirectory_iff_of_own (ownLater _ thereLater) (by simp)]
      simp
  | link target =>
      have restsHere := rests (by rw [isLink, ownLater _ (keepsLink directory target there)])
      rw [Bool.eq_iff_iff]
      constructor
      · intro final
        obtain ⟨_, place, stands⟩ := isDirectory_iff_stands.1 final
        rcases stands.before (before.trans after) with first | missing
        · have between := first.between ⟨place, stands⟩ before after
          exact isDirectory_iff_stands.2 ⟨accepted, place, between⟩
        · exact absurd (restsHere missing) stands.not_isMissing
      · intro given
        obtain ⟨_, place, stands⟩ := isDirectory_iff_stands.1 given
        rcases stands.before before with first | missing
        · exact keepsDirectory (isDirectory_iff_stands.2 ⟨accepted, place, first⟩)
        · exact absurd (restsHere missing) (not_missing_of_walk after stands)

end FormRules.FileTree
