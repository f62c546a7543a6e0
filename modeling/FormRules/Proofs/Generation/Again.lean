import FormRules.Proofs.Generation.Accounting

/-!
Contract: a second run over the tree that a first one has left.

Owns:
- what a file of a run asks of the tree before the run and after it;
- both runs in step, source by source;
- the answer and the tree of the second run;
- trees without links, where a run leaves alone what a second one depends on.

Does not own: runs that cut the way to a directory, or let a link that led
nowhere lead somewhere.  The second run may then come to something else.

## Two ways for a failure to stay

The second run meets the tree that the first one has left in the end, not the
tree that the first one had at the same source.  A write that has failed must
still fail there, and for the same reason.

If the first run has kept every link, the tree has only grown since, and every
walk that did not miss anything leads on as before.  If the run has replaced
links, walks may break off; but as long as the output directory is still there,
everything that the run asks for is one or two names away from it, and none of
these names is that of a replaced link.
-/

namespace FormRules.Generation

variable {settings : Settings} {start first last second tree : FileTree}
  {source : Source} {sources rest : List Source} {file : GeneratedFile}

/-! ## Runs that cannot write -/

theorem process_of_blocked (blocked : tree.Blocked settings.outputBase) (source : Source) :
    (source.process settings tree).2 = tree := by
  have ends := source.ends settings tree
  generalize source.process settings tree = result at ends
  cases ends with
  | planned => rfl
  | written wet planned done | unwritten wet planned done =>
      obtain ⟨parent, leaf, isAt⟩ := (Source.makes_of_plan planned).leaf
      obtain ⟨error, failed⟩ :=
        GeneratedFile.write_of_blocked leaf isAt blocked settings.atomicWrites
      rw [failed] at done
      exact (congrArg Prod.snd done).symm

/-- Where no output directory can be made, a run changes nothing. -/
theorem run_of_blocked (blocked : tree.Blocked settings.outputBase) (sources : List Source) :
    (run settings tree sources).2 = tree := by
  induction tree, sources using run_induction with
  | nil tree => rfl
  | cons tree source rest inductionHypothesis =>
      have same := process_of_blocked blocked source
      rw [run_cons, inductionHypothesis (by rwa [same]), same]

theorem outputBase_isTidy (settings : Settings) : Path.IsTidy settings.outputBase :=
  ⟨_, Path.notMem_stem settings.outputDirectory, rfl⟩

/-! ## Links that a run replaces -/

/-- Where links are replaced, files are put under names with a dot. -/
theorem exists_last_of_puts (replaces : settings.atomicWrites = true) {location : Location}
    (puts : Puts settings tree sources location) :
    ∃ directory last, location = directory ++ [last] ∧ '.' ∈ last.toList := by
  induction puts with
  | @here tree middle source rest file location grown receives put =>
      obtain ⟨request, _, made⟩ := Source.makes_of_process (congrArg Prod.fst put)
      rw [replaces, made, Request.path_file] at receives
      have leaf := request.leaf settings.outputDirectory
      obtain ⟨place, found, _⟩ := receives.place
      obtain ⟨directory, stands⟩ := FileTree.stands_of_spot leaf found
      obtain ⟨_, there, _⟩ := receives.inDirectory leaf stands
        (request.getLast?_names settings.outputDirectory)
      refine ⟨directory, _, there, ?_⟩
      rw [Request.toList_fileName]
      simp
  | later _ inductionHypothesis => exact inductionHypothesis

/-- A link of a name without dots is kept. -/
theorem keepsLink_run {directory : Location} {name target : String} (noDot : '.' ∉ name.toList)
    (there : tree.get? (directory ++ [name]) = some (.link target)) :
    (run settings tree sources).2.get? (directory ++ [name]) = some (.link target) := by
  cases replaces : settings.atomicWrites with
  | false => exact run_keepsLinks replaces tree sources _ _ there
  | true =>
      have spared : ¬ Puts settings tree sources (directory ++ [name]) := by
        intro puts
        obtain ⟨above, last, split, dot⟩ := exists_last_of_puts replaces puts
        have same := List.singleton_inj.1 (List.append_inj' split rfl).2
        rw [same] at noDot
        exact noDot dot
      exact (grown_run spared).existing there

/-! ## Files that a run comes to -/

/-- The run comes to a source that calls for the file, whether the file can be
written or not. -/
inductive Tries (settings : Settings) : FileTree → List Source → GeneratedFile → Prop where
  | here {tree : FileTree} {source : Source} {rest : List Source} {file : GeneratedFile}
      (planned : source.plan settings tree = .generated file) :
      Tries settings tree (source :: rest) file
  | later {tree : FileTree} {source : Source} {rest : List Source} {file : GeneratedFile}
      (tries : Tries settings (source.process settings tree).2
        (remaining settings (source.process settings tree).1 rest) file) :
      Tries settings tree (source :: rest) file

/-- The output directory is fit for a second run: either every link is kept,
and an output directory that cannot be made is asked for without `..`; or files
replace links, and the output directory is still there. -/
def OutputStays (settings : Settings) (start last : FileTree) : Prop :=
  start.KeepsLinks last ∧
      (".." ∉ (Route.ofText settings.outputBase).names ∨
        last.HasDirectory settings.outputBase) ∨
    settings.atomicWrites = true ∧ last.HasDirectory settings.outputBase

/-- The ways to a file are fit for a second run.  Its directory has not got lost.  A
link in place of the directory that has led nowhere still does; and so does one in
place of the file, if it is followed and the directory was missing that it leads
to. -/
structure WaysStay (settings : Settings) (start last : FileTree) (file : GeneratedFile) :
    Prop where
  directory : ∀ parent,
    Path.parent? (Path.join settings.outputDirectory file.path) = some parent →
      start.isDirectory parent = true → last.isDirectory parent = true
  directoryLink : ∀ parent,
    Path.parent? (Path.join settings.outputDirectory file.path) = some parent →
      last.isLink parent = true → start.IsMissing parent → last.IsMissing parent
  fileLink : settings.atomicWrites = false →
    last.isLink (Path.join settings.outputDirectory file.path) = true →
      start.find (Path.join settings.outputDirectory file.path) = .error .noSuchEntry →
        last.find (Path.join settings.outputDirectory file.path) = .error .noSuchEntry

section Steady

variable {given : FileTree} {parent : String}

/-- Between the first tree and the last one, the directory of a file is there
all the time or never, once there is anything in its place. -/
theorem WaysStay.isDirectory_steady (ways : WaysStay settings start last file)
    (isAt : FileTree.IsAt settings.outputBase parent)
    (above : Path.parent? (Path.join settings.outputDirectory file.path) = some parent)
    (has : last.HasDirectory settings.outputBase) (lastFormed : last.WellFormed)
    (before : start.Evolves given) (after : given.Evolves last)
    (keepsLink : ∀ directory name target, '.' ∉ name.toList →
      given.get? (directory ++ [name]) = some (.link target) →
        last.get? (directory ++ [name]) = some (.link target))
    (inside : parent ≠ settings.outputBase) {location : Location} {entry : Entry}
    (existing : given.own parent = .ok (.existing location entry)) :
    last.isDirectory parent = given.isDirectory parent := by
  cases isAt with
  | itself => exact absurd rfl inside
  | below tidied aboveParent isLast noDot =>
      exact FileTree.isDirectory_steady (tidied.stepUp aboveParent) before after
        (has.stands lastFormed) isLast noDot
        (fun directory target => keepsLink directory _ target noDot)
        (ways.directory parent above) (ways.directoryLink parent above) existing

/-- The directory that a file has been put into is still there in the end. -/
theorem WaysStay.stands (ways : WaysStay settings start last file)
    (output : OutputStays settings start last)
    (isAt : FileTree.IsAt settings.outputBase parent)
    (leaf : Path.Leaf (Path.join settings.outputDirectory file.path) parent)
    (lastFormed : last.WellFormed) (before : start.Evolves given) (after : given.Evolves last)
    (keepsLink : ∀ directory name target, '.' ∉ name.toList →
      given.get? (directory ++ [name]) = some (.link target) →
        last.get? (directory ++ [name]) = some (.link target))
    {place : Place}
    (found : given.spot settings.atomicWrites (Path.join settings.outputDirectory file.path) =
      .ok place) : last.Stands parent := by
  have stands := FileTree.stands_of_spot leaf found
  rcases output with ⟨keeps, _⟩ | ⟨_, has⟩
  · exact stands.of_extends ⟨after, (keeps.between before after).2⟩
  by_cases inside : parent = settings.outputBase
  · rw [inside]
    exact has.stands lastFormed
  · have accepted := Route.ofPath_of_beginning (FileTree.accepted_of_spot found)
      leaf.step.beginning (isAt.ne_empty inside)
    have there := FileTree.isDirectory_iff_stands.2 ⟨accepted, stands⟩
    obtain ⟨location, entry, existing⟩ := FileTree.existing_of_isDirectory there
    have steady := ways.isDirectory_steady isAt leaf.above has lastFormed before after keepsLink
      inside existing
    rw [there] at steady
    exact (FileTree.isDirectory_iff_stands.1 steady).2

end Steady

/-! ## Both runs in step -/

/-- The first run, which has begun at one tree and ends at another one, is at a
source, and so is the second run. -/
structure InStep (settings : Settings) (start last : FileTree) (directory : Location)
    (first second : FileTree) (sources : List Source) : Prop where
  ends : (run settings first sources).2 = last
  before : start.Evolves first
  formed : first.WellFormed
  alike : last.Alike second
  /-- Where nothing can be written, nothing has been written again. -/
  closed : last.Blocked settings.outputBase → second = last
  found : first.StandsAt settings.migrationsDirectory directory
  foundAgain : second.StandsAt settings.migrationsDirectory directory
  located : ∀ source ∈ sources, ∃ name content, Route.IsProper name ∧
    source = .migration (Path.join settings.migrationsDirectory name) ∧
    first.get? (directory ++ [name]) = some (.file content) ∧
    second.get? (directory ++ [name]) = some (.file content)
  apart : ∀ location, Puts settings first sources location → location.dropLast ≠ directory
  output : ∀ file, Tries settings first sources file → OutputStays settings start last
  ways : ∀ file, Tries settings first sources file → WaysStay settings start last file

/-- What the second run does at a source: nothing, where the first one has made
directories at most, or the same file once more. -/
inductive Repeats (settings : Settings) (last first second : FileTree) (source : Source)
    (rest : List Source) : FileTree → Prop where
  | idle (grown : first.Grows (source.process settings first).2) :
      Repeats settings last first second source rest second
  | rewritten {middle : FileTree} {location : Location} {content old : Content}
      (grown : first.Grows middle)
      (put : (source.process settings first).2 = middle.put location (.file content))
      (puts : Puts settings first (source :: rest) location)
      (there : second.get? location = some (.file old))
      (unblocked : ¬ last.Blocked settings.outputBase) :
      Repeats settings last first second source rest (second.put location (.file content))

/-- Where the first run puts no file, what is there stays in both runs. -/
theorem Repeats.keeps {after : FileTree} {location : Location} {entry : Entry}
    (repeats : Repeats settings last first second source rest after)
    (spared : ¬ Puts settings first (source :: rest) location)
    (there : first.get? location = some entry) (again : second.get? location = some entry) :
    (source.process settings first).2.get? location = some entry ∧
      after.get? location = some entry := by
  cases repeats with
  | idle grown => exact ⟨(grown.get? location).existing there, again⟩
  | @rewritten middle place _ _ grown put puts =>
      have different : location ≠ place := by
        rintro rfl
        exact spared puts
      rw [put, FileTree.get?_put_of_ne middle _ different,
        FileTree.get?_put_of_ne second _ different]
      exact ⟨(grown.get? location).existing there, again⟩

theorem process_of_plan {outcome : Outcome} (planned : source.plan settings tree = outcome)
    (noFile : outcome.file? = none) : source.process settings tree = (outcome, tree) := by
  rw [Source.process, planned]
  cases outcome with
  | generated => cases noFile
  | skipped | failed => rfl

theorem process_of_write (wet : settings.dryRun = false) {result : Except Error String}
    {after : FileTree} (planned : source.plan settings tree = .generated file)
    (written : file.write tree settings.outputDirectory settings.atomicWrites = (result, after)) :
    source.process settings tree =
      (match result with
        | .ok _ => .generated file
        | .error error => .failed source.name error, after) := by
  rw [Source.process, planned]
  simp only [Source.carryOut, wet, Bool.false_eq_true, if_false, written]
  cases result <;> rfl

namespace InStep

variable {directory : Location}
  (both : InStep settings start last directory first second (source :: rest))

include both

theorem process_ends :
    (run settings (source.process settings first).2
      (remaining settings (source.process settings first).1 rest)).2 = last := by
  rw [← both.ends, run_cons]

theorem process_before : start.Evolves (source.process settings first).2 :=
  both.before.trans (process_evolves settings first source)

theorem process_after : (source.process settings first).2.Evolves last := by
  rw [← both.process_ends]
  exact run_evolves settings _ _

theorem lastFormed : last.WellFormed := by
  rw [← both.ends]
  exact run_wellFormed both.formed settings _

theorem keepsLink {given : FileTree} (since : first.Evolves given) {directory : Location}
    {name target : String} (noDot : '.' ∉ name.toList)
    (there : given.get? (directory ++ [name]) = some (.link target)) :
    last.get? (directory ++ [name]) = some (.link target) := by
  rw [← both.ends]
  exact keepsLink_run noDot (since.link_before there)

theorem plan_eq : source.plan settings second = source.plan settings first := by
  obtain ⟨name, content, proper, rfl, there, still⟩ := both.located source List.mem_cons_self
  exact plan_congr (FileTree.readText_join proper both.found both.foundAgain there still)

/-- Where no output directory can be made, the first run ends. -/
theorem eq_last_of_blocked
    (blocked : (source.process settings first).2.Blocked settings.outputBase) :
    last = (source.process settings first).2 := by
  rw [← both.process_ends]
  exact run_of_blocked blocked _

theorem not_blocked (has : last.HasDirectory settings.outputBase) :
    ¬ (source.process settings first).2.Blocked settings.outputBase := by
  intro blocked
  rw [← both.eq_last_of_blocked blocked] at blocked
  exact has.not_blocked both.lastFormed (outputBase_isTidy settings) blocked

section Failed

variable {error : Error} {parent : String}
  (planned : source.plan settings first = .generated file)
  (leaf : Path.Leaf (Path.join settings.outputDirectory file.path) parent)
  (isAt : FileTree.IsAt settings.outputBase parent)

include planned leaf isAt

/-- A write that has failed fails again, if the first run has kept every link. -/
theorem write_error_of_keepsLinks (keeps : start.KeepsLinks last)
    (output : ".." ∉ (Route.ofText settings.outputBase).names ∨
      last.HasDirectory settings.outputBase)
    (failed : file.write first settings.outputDirectory settings.atomicWrites =
      (.error error, (source.process settings first).2)) :
    file.write second settings.outputDirectory settings.atomicWrites = (.error error, second) := by
  have ways := both.ways file (.here planned)
  have grown := GeneratedFile.grows_of_write_error leaf isAt.isTidy failed
  have extended : FileTree.Extends (source.process settings first).2 last :=
    ⟨both.process_after, (keeps.between both.process_before both.process_after).2⟩
  have fromStart : FileTree.Extends start first :=
    ⟨both.before,
      (keeps.between both.before (grown.toExtends.toEvolves.trans both.process_after)).1⟩
  have fromSecond := both.alike.symm.toExtends
  apply GeneratedFile.write_error_again leaf isAt both.formed failed
    (extended.trans both.alike.toExtends)
  · intro blocked
    have same := both.eq_last_of_blocked blocked
    rw [← same] at blocked ⊢
    exact both.closed blocked
  · intro link missing
    apply FileTree.isMissing_of_extends fromSecond
    exact ways.directoryLink parent leaf.above (FileTree.isLink_of_extends fromSecond link)
      (FileTree.isMissing_of_extends fromStart missing)
  · intro direct link missing
    apply FileTree.noSuchEntry_of_extends fromSecond
    exact ways.fileLink direct (FileTree.isLink_of_extends fromSecond link)
      (FileTree.noSuchEntry_of_extends fromStart missing)
  · exact output.imp_right both.not_blocked

/-- A write that has failed fails again, if files replace links and the output
directory is still there. -/
theorem write_error_of_hasDirectory (has : last.HasDirectory settings.outputBase)
    (failed : file.write first settings.outputDirectory true =
      (.error error, (source.process settings first).2)) :
    file.write second settings.outputDirectory true = (.error error, second) := by
  have after := both.process_after
  have grown := GeneratedFile.grows_of_write_error leaf isAt.isTidy failed
  have sameDirectories : ∀ path, second.isDirectory path = last.isDirectory path := by
    intro path
    rw [Bool.eq_iff_iff]
    exact ⟨FileTree.isDirectory_of_extends both.alike.symm.toExtends,
      FileTree.isDirectory_of_extends both.alike.toExtends⟩
  apply GeneratedFile.write_error_still leaf isAt both.formed failed
    (after.trans both.alike.toExtends.toEvolves) (both.not_blocked has)
    ((has.stands both.lastFormed).of_extends both.alike.toExtends)
  intro inside given among location entry existing
  rw [sameDirectories]
  have around : first.Evolves given ∧ given.Evolves last := by
    rcases among with rfl | rfl
    · exact ⟨.refl given, grown.toExtends.toEvolves.trans after⟩
    · exact ⟨grown.toExtends.toEvolves, after⟩
  exact (both.ways file (.here planned)).isDirectory_steady isAt leaf.above has both.lastFormed
    (both.before.trans around.1) around.2 (fun _ _ _ => both.keepsLink around.1) inside existing

theorem write_error
    (failed : file.write first settings.outputDirectory settings.atomicWrites =
      (.error error, (source.process settings first).2)) :
    file.write second settings.outputDirectory settings.atomicWrites = (.error error, second) := by
  rcases both.output file (.here planned) with ⟨keeps, output⟩ | ⟨replaces, has⟩
  · exact both.write_error_of_keepsLinks planned leaf isAt keeps output failed
  · rw [replaces] at failed ⊢
    exact both.write_error_of_hasDirectory planned leaf isAt has failed

end Failed

/-- At every source, the second run comes to the same outcome and repeats what
the first one has done. -/
theorem process_again (wet : settings.dryRun = false) :
    ∃ after, source.process settings second = ((source.process settings first).1, after) ∧
      Repeats settings last first second source rest after := by
  have planned := both.plan_eq
  have ends := source.ends settings first
  generalize processed : source.process settings first = result at ends
  cases ends with
  | planned idle =>
      have noFile : (source.plan settings first).file? = none := by
        rcases idle with dry | noFile
        · rw [wet] at dry
          cases dry
        · exact noFile
      exact ⟨second, process_of_plan planned noFile, .idle (by rw [processed]; exact .refl)⟩
  | @unwritten file after error _ plan failed =>
      rw [plan] at planned
      obtain ⟨parent, leaf, isAt⟩ := (Source.makes_of_plan plan).leaf
      have again := both.write_error plan leaf isAt (by rw [processed]; exact failed)
      refine ⟨second, process_of_write wet planned again, .idle ?_⟩
      rw [processed]
      exact GeneratedFile.grows_of_write_error leaf isAt.isTidy failed
  | @written file after _ _ plan done =>
      rw [plan] at planned
      obtain ⟨parent, leaf, isAt⟩ := (Source.makes_of_plan plan).leaf
      obtain ⟨_, middle, location, grown, receives, rfl⟩ :=
        GeneratedFile.receives_of_write_ok leaf isAt.isTidy done
      have since := grown.toExtends.toEvolves
      have after := both.process_after
      rw [processed] at after
      obtain ⟨place, found, _⟩ := receives.place
      have stands : last.Stands parent :=
        (both.ways file (.here plan)).stands (both.output file (.here plan)) isAt leaf
          both.lastFormed (both.before.trans since) ((receives.evolves _).trans after)
          (fun _ _ _ => both.keepsLink since) found
      have stays := receives.still leaf after stands (by
        intro direct
        rw [← both.process_ends, processed]
        exact run_keepsLinks direct _ _)
      obtain ⟨other, foundLast, _⟩ := stays
      have lasts := FileTree.spot_lasts both.alike.toExtends settings.atomicWrites
        (Path.join settings.outputDirectory file.path)
      rw [foundLast] at lasts
      obtain ⟨old, foundAgain, there⟩ := lasts.of_file
      have again := GeneratedFile.write_of_spot leaf isAt.isTidy
        (stands.of_extends both.alike.toExtends) foundAgain
      refine ⟨_, process_of_write wet planned again,
        .rewritten grown (by rw [processed]) (.here grown receives processed) there ?_⟩
      intro blocked
      exact stands.not_blocked isAt.isTidy
        (Route.ofPath_of_beginning (FileTree.accepted_of_spot found) leaf.step.beginning)
        (isAt.blocked blocked)

/-- After a source, both runs are in step at the next one. -/
theorem advance {after : FileTree}
    (repeats : Repeats settings last first second source rest after) :
    InStep settings start last directory (source.process settings first).2 after
      (remaining settings (source.process settings first).1 rest) := by
  have alike : second.Alike after ∧ last.Alike after ∧
      (last.Blocked settings.outputBase → after = last) := by
    cases repeats with
    | idle => exact ⟨.refl second, both.alike, both.closed⟩
    | rewritten grown put puts there unblocked =>
        exact ⟨(FileTree.Alike.refl second).put_file there _, both.alike.put_file there _,
          fun blocked => absurd blocked unblocked⟩
  have lastFound : last.Stands settings.migrationsDirectory :=
    ⟨directory, both.foundAgain.of_extends both.alike.symm.toExtends⟩
  refine
    { ends := both.process_ends
      before := both.process_before
      formed := process_wellFormed both.formed settings source
      alike := alike.2.1
      closed := alike.2.2
      found := both.found.between lastFound (process_evolves settings first source)
        both.process_after
      foundAgain := both.foundAgain.of_extends alike.1.toExtends
      located := ?_
      apart := fun location puts => both.apart location (.later puts)
      output := fun file tries => both.output file (.later tries)
      ways := fun file tries => both.ways file (.later tries) }
  intro other member
  have inRest : other ∈ rest := by
    rw [remaining] at member
    split at member
    · cases member
    · exact member
  obtain ⟨name, content, proper, isLocated, there, still⟩ :=
    both.located other (List.mem_cons_of_mem source inRest)
  exact ⟨name, content, proper, isLocated,
    repeats.keeps (fun puts => both.apart _ puts List.dropLast_concat) there still⟩

end InStep

/-- The second run comes to the same outcomes.  At a location it leaves what the
first run has left there in the end; or it leaves the location alone, and so
has the first run since they are in step, up to a directory. -/
theorem run_again (wet : settings.dryRun = false) {directory : Location}
    (both : InStep settings start last directory first second sources) :
    (run settings second sources).1 = (run settings first sources).1 ∧
      ∀ location,
        (run settings second sources).2.get? location = second.get? location ∧
            Entry.Grown (first.get? location) (last.get? location) ∨
          (run settings second sources).2.get? location = last.get? location := by
  induction first, sources using run_induction generalizing second with
  | nil first =>
      obtain rfl := both.ends
      exact ⟨rfl, fun location => .inl ⟨rfl, .inl rfl⟩⟩
  | cons first source rest inductionHypothesis =>
      obtain ⟨after, processed, repeats⟩ := both.process_again wet
      obtain ⟨outcomes, left⟩ := inductionHypothesis (both.advance repeats)
      rw [run_cons settings second, run_cons settings first, processed]
      refine ⟨by rw [outcomes], ?_⟩
      intro location
      rcases left location with ⟨untouched, grownLater⟩ | final
      · rw [untouched]
        cases repeats with
        | idle grown => exact .inl ⟨rfl, (grown.get? location).trans grownLater⟩
        | @rewritten middle place content old grown put _ there =>
            have proper : place ≠ [] := by
              rintro rfl
              simp [FileTree.get?] at there
            rw [put, FileTree.get?_put proper] at grownLater
            rw [FileTree.get?_put proper]
            by_cases same : location = place
            · rw [if_pos same] at grownLater ⊢
              exact .inr (grownLater.existing rfl).symm
            · rw [if_neg same] at grownLater ⊢
              exact .inl ⟨rfl, (grown.get? location).trans grownLater⟩
      · exact .inr final

/-! ## What a second run depends on -/

/-- The run leaves alone what a second one depends on.  The migrations directory
is still there, with no file of the run in it.  So is the output directory,
unless no file could be written and it is asked for without `..`.  And the ways
to the files that the run has come to are fit for a second run. -/
structure Undisturbed (settings : Settings) (tree : FileTree) (sources : List Source) :
    Prop where
  migrations : (run settings tree sources).2.isDirectory settings.migrationsDirectory = true
  apart : ∀ location, Puts settings tree sources location → ∀ directory,
    tree.find settings.migrationsDirectory = .ok (.existing directory .directory) →
      location.dropLast ≠ directory
  output : ∀ file, Tries settings tree sources file →
    (run settings tree sources).2.HasDirectory settings.outputBase ∨
      ".." ∉ (Route.ofText settings.outputBase).names ∧
        filesOf (run settings tree sources).1 = []
  ways : ∀ file, Tries settings tree sources file →
    WaysStay settings tree (run settings tree sources).2 file

section Undisturbed

variable (undisturbed : Undisturbed settings tree sources)

include undisturbed

theorem Undisturbed.outputStays (tries : Tries settings tree sources file) :
    OutputStays settings tree (run settings tree sources).2 := by
  cases replaces : settings.atomicWrites with
  | false =>
      refine .inl ⟨run_keepsLinks replaces tree sources, ?_⟩
      exact (undisturbed.output file tries).symm.imp_left And.left
  | true =>
      rcases undisturbed.output file tries with has | ⟨noUp, noFile⟩
      · exact .inr ⟨replaces, has⟩
      · exact .inl ⟨(run_grows noFile).toExtends.keepsLinks, .inl noUp⟩

variable (formed : tree.WellFormed) (located : migrationSources settings tree = .ok sources)

include formed located

/-- The second run begins with both runs in step. -/
theorem Undisturbed.exists_inStep :
    ∃ directory, InStep settings tree (run settings tree sources).2 directory tree
      (run settings tree sources).2 sources := by
  obtain ⟨paths, migrations, rfl⟩ := exists_paths_of_migrationSources located
  obtain ⟨directory, found, named⟩ := FileTree.exists_name_of_mem_migrations formed migrations
  have stands := FileTree.standsAt_of_find found
  have evolves := run_evolves settings tree (paths.map .migration)
  refine ⟨directory,
    { ends := rfl
      before := .refl tree
      formed := formed
      alike := .refl _
      closed := fun _ => rfl
      found := stands
      foundAgain := stands.still evolves
        (FileTree.isDirectory_iff_stands.1 undisturbed.migrations).2
      located := ?_
      apart := fun location puts => undisturbed.apart location puts directory found
      output := fun file tries => undisturbed.outputStays tries
      ways := undisturbed.ways }⟩
  intro source member
  obtain ⟨path, inPaths, rfl⟩ := List.mem_map.1 member
  obtain ⟨name, content, proper, rfl, there⟩ := named path inPaths
  refine ⟨name, content, proper, rfl, there, ?_⟩
  have spared : ¬ Puts settings tree (paths.map .migration) (directory ++ [name]) := fun puts =>
    undisturbed.apart _ puts directory found List.dropLast_concat
  exact (grown_run spared).existing there

/-- The second run locates the same files. -/
theorem Undisturbed.migrationSources_again :
    migrationSources settings (run settings tree sources).2 = .ok sources := by
  obtain ⟨paths, migrations, rfl⟩ := exists_paths_of_migrationSources located
  obtain ⟨directory, found, rfl⟩ := FileTree.exists_find_of_migrations migrations
  generalize isSources : (List.map (Path.join settings.migrationsDirectory) _).map
    Source.migration = sources at undisturbed ⊢
  have stands := (FileTree.standsAt_of_find found).still (run_evolves settings tree sources)
    (FileTree.isDirectory_iff_stands.1 undisturbed.migrations).2
  have foundAgain := FileTree.find_of_standsAt (FileTree.accepted_of_find found) stands
  have sameNames : (run settings tree sources).2.migrationNames directory settings.extension =
      tree.migrationNames directory settings.extension := by
    apply FileTree.migrationNames_congr formed (run_wellFormed formed settings sources)
    intro name
    exact FileTree.isMigration_of_grown
      (grown_run fun puts => undisturbed.apart _ puts directory found List.dropLast_concat)
  rw [migrationSources, FileTree.migrations_of_find foundAgain, sameNames, ← isSources]
  rfl

end Undisturbed

/-! ## Trees without links -/

/-- Where a file has been written, the output directory is there in the end, for
no link on the way to it can be lost. -/
theorem hasDirectory_run (noLinks : tree.HasNoLinks) (wet : settings.dryRun = false)
    (someFile : filesOf (run settings tree sources).1 ≠ []) :
    (run settings tree sources).2.HasDirectory settings.outputBase := by
  induction tree, sources using run_induction with
  | nil tree => exact absurd rfl someFile
  | cons tree source rest inductionHypothesis =>
      rw [run_cons] at someFile ⊢
      have leaves := source.leaves settings tree
      generalize source.process settings tree = result
        at leaves someFile inductionHypothesis ⊢
      cases leaves with
      | grown grown noFile =>
          rcases noFile with dry | noFile
          · rw [wet] at dry
            cases dry
          · rw [filesOf_cons, noFile] at someFile
            exact inductionHypothesis (noLinks.grows grown) someFile
      | put makes grown receives =>
          obtain ⟨parent, leaf, isAt⟩ := makes.leaf
          obtain ⟨place, found, _⟩ := receives.place
          have has := isAt.hasDirectory
            (Route.ofPath_of_beginning (FileTree.accepted_of_spot found) leaf.step.beginning)
            (FileTree.stands_of_spot leaf found)
          exact has.of_extends
            ⟨(receives.evolves _).trans (run_evolves settings _ _),
              (noLinks.grows grown).keepsLinks _⟩

/-- Without links in the tree and `..` in the output directory, a run leaves alone
what a second one depends on, if only it puts no file into the migrations
directory. -/
theorem undisturbed_of_hasNoLinks (noLinks : tree.HasNoLinks) (wet : settings.dryRun = false)
    (noUp : ".." ∉ (Route.ofText settings.outputBase).names)
    (located : migrationSources settings tree = .ok sources)
    (apart : ∀ location, Puts settings tree sources location → ∀ directory,
      tree.find settings.migrationsDirectory = .ok (.existing directory .directory) →
        location.dropLast ≠ directory) : Undisturbed settings tree sources := by
  have evolves := run_evolves settings tree sources
  have extended : FileTree.Extends tree (run settings tree sources).2 :=
    ⟨evolves, noLinks.keepsLinks _⟩
  have neverLink : ∀ path, (run settings tree sources).2.isLink path ≠ true := by
    intro path link
    rw [(noLinks.evolves evolves).isLink_eq_false path] at link
    cases link
  refine ⟨?migrations, apart, ?output, ?ways⟩
  case migrations =>
    obtain ⟨paths, migrations, _⟩ := exists_paths_of_migrationSources located
    obtain ⟨directory, found, _⟩ := FileTree.exists_find_of_migrations migrations
    apply FileTree.isDirectory_of_extends extended
    rw [FileTree.isDirectory, found]
  case output =>
    intro file _
    by_cases noFile : filesOf (run settings tree sources).1 = []
    · exact .inr ⟨noUp, noFile⟩
    · exact .inl (hasDirectory_run noLinks wet noFile)
  case ways =>
    intro file _
    exact
      { directory := fun _ _ => FileTree.isDirectory_of_extends extended
        directoryLink := fun parent _ link => absurd link (neverLink parent)
        fileLink := fun _ link => absurd link (neverLink _) }

/-! ## The answer of the second run -/

theorem ofMigrations_of_failure (located : migrationSources settings tree = .ok [source])
    (aborts : settings.onFailure = .abort) {name : String} {error : Error} {after : FileTree}
    (failed : source.process settings tree = (.failed name error, after)) :
    ofMigrations settings tree = (.error error, after) := by
  rw [ofMigrations, located]
  show ofSources settings tree [source] = _
  rw [ofSources, run_singleton, failed]
  exact Prod.ext (conclude_of_failure aborts rfl) rfl

/-- A second run over the tree that the first one has left comes to the same
report or the same error, and changes nothing. -/
theorem generate_again (formed : tree.WellFormed)
    (undisturbed : settings.dryRun = false → ∀ sources,
      migrationSources settings tree = .ok sources → Undisturbed settings tree sources) :
    ∃ again, ofMigrations settings (ofMigrations settings tree).2 =
        ((ofMigrations settings tree).1, again) ∧
      (ofMigrations settings tree).2.Same again := by
  cases located : migrationSources settings tree with
  | error error =>
      have ended : ofMigrations settings tree = (.error error, tree) := by
        rw [ofMigrations, located]
      rw [ended]
      exact ⟨tree, ended, rfl, fun _ => rfl⟩
  | ok sources =>
      have first : ofMigrations settings tree = ofSources settings tree sources := by
        rw [ofMigrations, located]
      cases dry : settings.dryRun with
      | true =>
          have unchanged : (ofMigrations settings tree).2 = tree := by
            rw [first]
            exact run_of_dryRun dry tree sources
          rw [unchanged]
          exact ⟨tree, Prod.ext rfl unchanged, rfl, fun _ => rfl⟩
      | false =>
          have calm := undisturbed dry sources located
          obtain ⟨directory, both⟩ := calm.exists_inStep formed located
          obtain ⟨outcomes, left⟩ := run_again dry both
          have second : ofMigrations settings (run settings tree sources).2 =
              ofSources settings (run settings tree sources).2 sources := by
            rw [ofMigrations, calm.migrationSources_again formed located]
          rw [first]
          refine ⟨(run settings (run settings tree sources).2 sources).2, ?_, ?_, ?_⟩
          · show ofMigrations settings (run settings tree sources).2 = _
            rw [second]
            show (conclude settings (run settings _ sources).1, _) =
              (conclude settings (run settings tree sources).1, _)
            rw [outcomes]
          · exact (run_evolves settings _ sources).workingDirectory
          · intro location
            rcases left location with ⟨untouched, _⟩ | final
            · exact untouched
            · exact final

/-- Two migrations with the same output path; the second one writes over the file
of the first. -/
theorem generate_again_same_class :
    let settings : Settings := { migrationsDirectory := "m", outputDirectory := "out" }
    let tree : FileTree :=
      { entries := [(["m"], .directory), (["out"], .directory),
          (["m", "1_user.php"], .file (.text "Schema::create('user', fn ($table) => 0);")),
          (["m", "2_users.php"], .file (.text "Schema::create('users', fn ($table) => 0);"))] }
    tree.WellFormed ∧
      (settings.dryRun = false → ∀ sources, migrationSources settings tree = .ok sources →
        Undisturbed settings tree sources) ∧
      ∃ again, ofMigrations settings (ofMigrations settings tree).2 =
          ((ofMigrations settings tree).1, again) ∧
        (ofMigrations settings tree).2.Same again := by
  intro settings tree
  let sources : List Source := [.migration "m/1_user.php", .migration "m/2_users.php"]
  have located : migrationSources settings tree = .ok sources :=
    migrationSources_of_listed ["m"] ["1_user.php", "2_users.php"]
      ["m/1_user.php", "m/2_users.php"] (by decide +kernel) rfl (by decide) (by decide +kernel)
  obtain ⟨formed, found, noUp, apart⟩ : tree.WellFormed ∧
      (tree.find "m").toOption = some (.existing ["m"] .directory) ∧
      ".." ∉ (Route.ofText settings.outputBase).names ∧
      ∀ location ∈ places settings tree sources, location.dropLast ≠ ["m"] := by
    decide +kernel
  have noLinks : tree.HasNoLinks := by
    apply FileTree.hasNoLinks_of_entries
    simp [tree]
  have undisturbed : settings.dryRun = false → ∀ sources,
      migrationSources settings tree = .ok sources → Undisturbed settings tree sources := by
    intro wet given isGiven
    rw [located] at isGiven
    cases Except.ok.inj isGiven
    apply undisturbed_of_hasNoLinks noLinks wet noUp located
    intro location puts directory there
    rw [show tree.find "m" = _ from there] at found
    cases found
    exact apart location puts.mem_places
  exact ⟨formed, undisturbed, generate_again formed undisturbed⟩

/-- Where the output path goes up from a directory that the run makes, the
second run fails for another reason than the first one. -/
theorem generate_again_beside_new_directory :
    let settings : Settings := { migrationsDirectory := "m", outputDirectory := "a/../f" }
    let tree : FileTree :=
      { entries := [(["f"], .file (.text "")), (["m"], .directory),
          (["m", "1_users.php"], .file (.text "Schema::create('users', fn ($table) => 0);"))] }
    tree.WellFormed ∧
      (∀ sources, migrationSources settings tree = .ok sources →
        ∀ location, ¬ Puts settings tree sources location) ∧
      (ofMigrations settings (ofMigrations settings tree).2).1 ≠ (ofMigrations settings tree).1 := by
  intro settings tree
  have located : migrationSources settings tree = .ok [.migration "m/1_users.php"] :=
    migrationSources_of_listed ["m"] ["1_users.php"] ["m/1_users.php"] (by decide +kernel) rfl
      (by decide) (by decide +kernel)
  have locatedAgain : migrationSources settings (tree.put ["a"] .directory) =
      .ok [.migration "m/1_users.php"] :=
    migrationSources_of_listed ["m"] ["1_users.php"] ["m/1_users.php"] (by decide +kernel)
      (by decide +kernel) (by decide) (by decide +kernel)
  have first : (Source.migration "m/1_users.php").process settings tree =
      (.failed "m/1_users.php" (.directoryCreate "a/../f/User" FileFault.alreadyExists.message),
        tree.put ["a"] .directory) := by
    decide +kernel
  have second : (Source.migration "m/1_users.php").process settings (tree.put ["a"] .directory) =
      (.failed "m/1_users.php" (.directoryCreate "a/../f/User" FileFault.notDirectory.message),
        tree.put ["a"] .directory) := by
    decide +kernel
  refine ⟨⟨by decide, ?_, rfl⟩, ?_, ?_⟩
  · intro item member
    simp only [tree, List.mem_cons, List.not_mem_nil, or_false] at member
    rcases member with rfl | rfl | rfl
    · exact ⟨[], "f", rfl, rfl, by decide⟩
    · exact ⟨[], "m", rfl, rfl, by decide⟩
    · exact ⟨["m"], "1_users.php", rfl, rfl, by decide⟩
  · intro sources given location puts
    rw [located] at given
    cases Except.ok.inj given
    cases puts with
    | here _ _ put =>
        rw [first] at put
        cases congrArg Prod.fst put
    | later puts =>
        rw [remaining, first] at puts
        cases puts
  · rw [ofMigrations_of_failure located rfl first, ofMigrations_of_failure locatedAgain rfl second]
    intro same
    exact absurd (Except.error.inj same) (by decide)

end FormRules.Generation
