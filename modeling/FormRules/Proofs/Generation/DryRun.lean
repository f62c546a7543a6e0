import FormRules.Proofs.Generation.Accounting

/-!
Contract: dry runs, and the runs that they stand for.

Owns:
- dry runs, which change nothing and report nothing as written;
- the outcomes of a run that can write all its files, found without writing
  them;
- runs over migrations that leave the reading of the migrations alone.

Does not own: runs that put a file in place of a migration, or that replace the
link through which the migrations are found.

The tree of the real run changes with every source, and that of the dry run
never does.  The two runs still plan the same, because a plan depends on the
tree through the text of one migration alone.
-/

namespace FormRules

/-- The same settings for a dry run. -/
def Settings.rehearsal (settings : Settings) : Settings :=
  { settings with dryRun := true }

/-- A directory could not be made, or a file not be put in one. -/
def Error.isUnwritten : Error → Bool
  | .directoryCreate _ _ | .fileWrite _ _ => true
  | _ => false

def Outcome.isUnwritten (outcome : Outcome) : Bool :=
  outcome.failure?.any fun failure => failure.2.isUnwritten

/-! ## One source -/

namespace Source

variable {settings : Settings} {tree : FileTree} {source : Source}

theorem process_rehearsal (settings : Settings) (tree : FileTree) (source : Source) :
    source.process settings.rehearsal tree = (source.plan settings tree, tree) := by
  have samePlan : source.plan settings.rehearsal tree = source.plan settings tree := rfl
  rw [process, carryOut_of_dryRun rfl, samePlan]

/-- The outcome of a source is the planned one, unless its file could not be
written. -/
theorem outcome_of_written
    (written : (source.process settings tree).1.isUnwritten = false) :
    (source.process settings tree).1 = source.plan settings tree := by
  have ends := source.ends settings tree
  generalize source.process settings tree = result at ends written
  cases ends with
  | planned => rfl
  | written _ planned => exact planned.symm
  | unwritten wet planned failed =>
      obtain ⟨parent, leaf, _⟩ := (makes_of_plan planned).leaf
      have step := GeneratedFile.written leaf tree settings.atomicWrites
      rw [failed] at step
      cases step with
      | noDirectory | refused => cases written

end Source

namespace Generation

variable {settings : Settings} {start tree : FileTree} {sources before rest : List Source}
  {source : Source}

/-! ## The run without the writing -/

/-- If every file is written and every plan is made as in the tree at the start,
a dry run comes to the same outcomes. -/
theorem run_rehearsal
    (written : ∀ outcome ∈ (run settings tree sources).1, outcome.isUnwritten = false)
    (planned : ∀ before source rest, sources = before ++ source :: rest →
      source.plan settings (run settings tree before).2 = source.plan settings start) :
    run settings.rehearsal start sources = ((run settings tree sources).1, start) := by
  induction sources generalizing tree with
  | nil => rfl
  | cons source rest inductionHypothesis =>
      have firstWritten : (source.process settings tree).1.isUnwritten = false := by
        apply written
        rw [run_cons]
        exact List.mem_cons_self
      have outcome : (source.process settings tree).1 = source.plan settings start :=
        (Source.outcome_of_written firstWritten).trans (planned [] source rest rfl)
      have rehearsed : source.process settings.rehearsal start =
          ((source.process settings tree).1, start) := by
        rw [outcome, Source.process_rehearsal]
      have sameEnd : endsRun settings.rehearsal (source.process settings tree).1 =
          endsRun settings (source.process settings tree).1 := rfl
      have others : run settings.rehearsal start
          (remaining settings (source.process settings tree).1 rest) =
            ((run settings (source.process settings tree).2
              (remaining settings (source.process settings tree).1 rest)).1, start) := by
        rw [remaining]
        cases ends : endsRun settings (source.process settings tree).1 with
        | true => rfl
        | false =>
            rw [run_cons_of_goesOn ends] at written
            apply inductionHypothesis fun outcome member =>
              written outcome (List.mem_cons_of_mem _ member)
            intro others later last split
            have samePlan := planned (source :: others) later last (by rw [split]; rfl)
            rwa [run_cons_of_goesOn ends] at samePlan
      rw [run_cons, run_cons, rehearsed, remaining, sameEnd, ← remaining, others]

/-! ## Reading what the run leaves alone -/

/-- What a run leaves after some sources becomes what it leaves in the end. -/
theorem run_evolves_append (tree : FileTree) (before rest : List Source) :
    FileTree.Evolves (run settings tree before).2 (run settings tree (before ++ rest)).2 := by
  induction before generalizing tree with
  | nil => exact run_evolves settings tree rest
  | cons source others inductionHypothesis =>
      rw [List.cons_append, run_cons, run_cons, remaining, remaining]
      split
      · exact .refl _
      · exact inductionHypothesis _

/-- The run puts no file in place of a located one, and the migrations directory
is still found in the end. -/
structure LeavesMigrations (settings : Settings) (tree : FileTree) (sources : List Source) :
    Prop where
  spares : SparesSources settings tree sources
  stays : (run settings tree sources).2.isDirectory settings.migrationsDirectory = true

theorem LeavesMigrations.plan_run (leaves : LeavesMigrations settings tree sources)
    (formed : tree.WellFormed) (located : migrationSources settings tree = .ok sources)
    (split : sources = before ++ source :: rest) :
    source.plan settings (run settings tree before).2 = source.plan settings tree := by
  obtain ⟨path, rfl⟩ : ∃ path, source = .migration path := by
    obtain ⟨paths, _, isMapped⟩ := exists_paths_of_migrationSources located
    have member : source ∈ paths.map Source.migration := by
      rw [← isMapped, split]
      simp
    obtain ⟨path, _, rfl⟩ := List.mem_map.1 member
    exact ⟨path, rfl⟩
  obtain ⟨directory, name, content, proper, rfl, stands, there, kept⟩ :=
    exists_kept_of_located formed located leaves.spares split
  have evolves := run_evolves settings tree before
  have standsLast := (FileTree.isDirectory_iff_stands.1 leaves.stays).2
  have again : (run settings tree before).2.StandsAt settings.migrationsDirectory directory := by
    rw [split] at standsLast
    exact stands.between standsLast evolves (run_evolves_append tree before _)
  exact plan_congr (FileTree.readText_join_of_kept proper evolves stands again there kept)

/-! ## The answer of a run -/

/-- The answer tells of no file that could not be written. -/
def AllWritten : Except Error Report → Prop
  | .ok report => ∀ failure ∈ report.failures, failure.2.isUnwritten = false
  | .error error => error.isUnwritten = false

/-- The first answer is that of a dry run, and differs from the second one in
nothing else. -/
inductive Foretells : Except Error Report → Except Error Report → Prop where
  | error (error : Error) : Foretells (.error error) (.error error)
  | report {dry real : Report} (files : dry.files = real.files)
      (skipped : dry.skipped = real.skipped) (failures : dry.failures = real.failures)
      (written : dry.written = [])
      (summary : dry.summary = { real.summary with dryRun := true }) :
      Foretells (.ok dry) (.ok real)

/-- The answer tells of an outcome that does not end the run and of the others. -/
theorem allWritten_cons {outcome : Outcome} {others : List Outcome}
    (goesOn : endsRun settings outcome = false) :
    AllWritten (conclude settings (outcome :: others)) ↔
      outcome.isUnwritten = false ∧ AllWritten (conclude settings others) := by
  cases policy : settings.onFailure with
  | proceed =>
      have reported : ∀ given, conclude settings given = .ok (Report.ofOutcomes settings given) := by
        intro given
        rw [conclude, policy]
      rw [reported, reported]
      cases outcome <;> simp [AllWritten, Report.ofOutcomes, Outcome.isUnwritten, Outcome.failure?]
  | abort =>
      have noFailure : outcome.failure? = none := by simpa [endsRun, policy] using goesOn
      have silent : outcome.isUnwritten = false := by rw [Outcome.isUnwritten, noFailure]; rfl
      have sameFailures : (Report.ofOutcomes settings (outcome :: others)).failures =
          (Report.ofOutcomes settings others).failures :=
        List.filterMap_cons_none noFailure
      rw [conclude, conclude, policy, List.findSome?_cons, noFailure]
      cases others.findSome? Outcome.failure? with
      | some failure => simp only [silent, true_and]
      | none => simp only [AllWritten, sameFailures, silent, true_and]

/-- No outcome of a run is a file that could not be written, if its answer tells
of none. -/
theorem isUnwritten_of_allWritten
    (allWritten : AllWritten (conclude settings (run settings tree sources).1)) :
    ∀ outcome ∈ (run settings tree sources).1, outcome.isUnwritten = false := by
  induction tree, sources using run_induction with
  | nil tree => simp [run]
  | cons tree source rest inductionHypothesis =>
      rw [run_cons] at allWritten ⊢
      generalize source.process settings tree = first at allWritten inductionHypothesis ⊢
      cases ends : endsRun settings first.1 with
      | false =>
          obtain ⟨firstWritten, others⟩ := (allWritten_cons ends).1 allWritten
          exact List.forall_mem_cons.2 ⟨firstWritten, inductionHypothesis others⟩
      | true =>
          -- The failure that ends the run is the whole answer.
          rw [endsRun, Bool.and_eq_true, beq_iff_eq] at ends
          obtain ⟨failure, failed⟩ := Option.isSome_iff_exists.1 ends.2
          have nothingLeft : remaining settings first.1 rest = [] := by
            simp [remaining, endsRun, ends.1, ends.2]
          rw [nothingLeft] at allWritten ⊢
          have answer : conclude settings [first.1] = .error failure.2 := by
            rw [conclude, ends.1, List.findSome?_singleton, failed]
          rw [show (run settings first.2 []).1 = [] from rfl, answer] at allWritten
          intro outcome member
          rw [List.mem_singleton.1 member, Outcome.isUnwritten, failed]
          exact allWritten

theorem allWritten_conclude {outcomes : List Outcome}
    (written : outcomes.all (fun outcome => !outcome.isUnwritten) = true) :
    AllWritten (conclude settings outcomes) := by
  have silent : ∀ outcome ∈ outcomes, ∀ failure, outcome.failure? = some failure →
      failure.2.isUnwritten = false := by
    intro outcome member failure failed
    simpa [Outcome.isUnwritten, failed] using List.all_eq_true.1 written outcome member
  rw [conclude]
  split
  next error _ found =>
    obtain ⟨outcome, member, failed⟩ := List.exists_of_findSome?_eq_some found
    exact silent outcome member _ failed
  next =>
    intro failure member
    obtain ⟨outcome, inRun, failed⟩ := List.mem_filterMap.1 member
    exact silent outcome inRun failure failed

theorem foretells_conclude (settings : Settings) (outcomes : List Outcome) :
    Foretells (conclude settings.rehearsal outcomes) (conclude settings outcomes) := by
  have samePolicy : settings.rehearsal.onFailure = settings.onFailure := rfl
  rw [conclude, conclude, samePolicy]
  split
  · exact .error _
  · exact .report rfl rfl rfl rfl rfl

theorem foretells_ofSources
    (allWritten : AllWritten (ofSources settings tree sources).1)
    (planned : ∀ before source rest, sources = before ++ source :: rest →
      source.plan settings (run settings tree before).2 = source.plan settings tree) :
    Foretells (ofSources settings.rehearsal tree sources).1 (ofSources settings tree sources).1 := by
  have rehearsed := run_rehearsal (isUnwritten_of_allWritten allWritten) planned
  show Foretells (conclude settings.rehearsal (run settings.rehearsal tree sources).1) _
  rw [rehearsed]
  exact foretells_conclude settings _

/-! ## Both kinds of run -/

/-- What a run is about. -/
inductive Task where
  | migrations
  | document (schema : Schema)

def Task.perform (settings : Settings) (tree : FileTree) : Task → Except Error Report × FileTree
  | .migrations => ofMigrations settings tree
  | .document schema => ofSchema settings schema tree

theorem Task.perform_of_dryRun (dry : settings.dryRun = true) (tree : FileTree) (task : Task) :
    (task.perform settings tree).2 = tree := by
  cases task with
  | document schema => exact run_of_dryRun dry tree _
  | migrations =>
      rw [perform, ofMigrations]
      split
      · exact run_of_dryRun dry tree _
      · rfl

theorem Task.written_of_dryRun (dry : settings.dryRun = true) {task : Task} {report : Report}
    (reported : (task.perform settings tree).1 = .ok report) : report.written = [] := by
  have ofConclude : ∀ outcomes, conclude settings outcomes = .ok report → report.written = [] := by
    intro outcomes concluded
    rw [eq_ofOutcomes_of_conclude concluded]
    exact if_pos dry
  cases task with
  | document schema => exact ofConclude _ reported
  | migrations =>
      rw [perform, ofMigrations] at reported
      split at reported
      · exact ofConclude _ reported
      · cases reported

/-- A dry run leaves the tree as it is and reports nothing as written.  If the
same run can write all its files, and if it leaves the migrations alone in case
it is about them, the dry run foretells its answer: the same error, or a report
with the same files, skipped sources and failures, and the same summary but for
the mark of a dry run. -/
theorem dry_run_foretells (settings : Settings) (tree : FileTree) (task : Task) :
    (settings.dryRun = true → (task.perform settings tree).2 = tree ∧
      ∀ report, (task.perform settings tree).1 = .ok report → report.written = []) ∧
    (AllWritten (task.perform settings tree).1 →
      (task = .migrations → tree.WellFormed ∧
        ∀ sources, migrationSources settings tree = .ok sources →
          LeavesMigrations settings tree sources) →
      Foretells (task.perform settings.rehearsal tree).1 (task.perform settings tree).1) := by
  refine ⟨fun dry => ⟨task.perform_of_dryRun dry tree, fun _ => Task.written_of_dryRun dry⟩, ?_⟩
  intro allWritten undisturbed
  cases task with
  | document schema =>
      apply foretells_ofSources allWritten
      intro before source rest split
      have member : source ∈ schemaSources schema := by
        rw [split]
        simp
      obtain ⟨table, _, rfl⟩ := List.mem_map.1 member
      rfl
  | migrations =>
      obtain ⟨formed, leaves⟩ := undisturbed rfl
      have sameSources : migrationSources settings.rehearsal tree =
          migrationSources settings tree := rfl
      rw [Task.perform, Task.perform, ofMigrations, ofMigrations, sameSources] at *
      cases located : migrationSources settings tree with
      | error error => exact .error error
      | ok sources =>
          rw [located] at allWritten
          exact foretells_ofSources allWritten fun before source rest split =>
            (leaves sources located).plan_run formed located split

/-- A migration with a file, one that cannot be read, and one without a table. -/
theorem dry_run_foretells_unread_migration :
    let settings : Settings :=
      { migrationsDirectory := "m", outputDirectory := "out", onFailure := .proceed }
    let tree : FileTree :=
      { entries := [(["m"], .directory),
          (["m", "1_users.php"], .file (.text "Schema::create('users', fn ($table) => 0);")),
          (["m", "2_posts.php"], .file (.binary [255])),
          (["m", "3_notes.php"], .file (.text ""))] }
    settings.rehearsal.dryRun = true ∧
      ((Task.migrations.perform settings.rehearsal tree).2 = tree ∧
        ∀ report, (Task.migrations.perform settings.rehearsal tree).1 = .ok report →
          report.written = []) ∧
      AllWritten (Task.migrations.perform settings tree).1 ∧ tree.WellFormed ∧
      (∀ sources, migrationSources settings tree = .ok sources →
        LeavesMigrations settings tree sources) ∧
      Foretells (Task.migrations.perform settings.rehearsal tree).1
        (Task.migrations.perform settings tree).1 := by
  intro settings tree
  let users : Source := .migration "m/1_users.php"
  let posts : Source := .migration "m/2_posts.php"
  let notes : Source := .migration "m/3_notes.php"
  have located : migrationSources settings tree = .ok [users, posts, notes] :=
    migrationSources_of_listed ["m"] ["1_users.php", "2_posts.php", "3_notes.php"]
      ["m/1_users.php", "m/2_posts.php", "m/3_notes.php"] (by decide +kernel) rfl (by decide)
      (by decide +kernel)
  have formed : tree.WellFormed := by decide +kernel
  obtain ⟨apart, stays, noneUnwritten⟩ :
      (∀ source ∈ [users, posts, notes],
        ∀ location ∈ places settings tree [users, posts, notes],
          migrationLocation? tree source ≠ some location) ∧
        (run settings tree [users, posts, notes]).2.isDirectory "m" = true ∧
        (run settings tree [users, posts, notes]).1.all
          (fun outcome => !outcome.isUnwritten) = true := by
    decide +kernel
  have leaves : ∀ sources, migrationSources settings tree = .ok sources →
      LeavesMigrations settings tree sources := by
    intro sources given
    rw [located] at given
    cases Except.ok.inj given
    exact ⟨sparesSources_of_places apart, stays⟩
  have written : AllWritten (Task.migrations.perform settings tree).1 := by
    rw [Task.perform, ofMigrations, located]
    show AllWritten (conclude settings (run settings tree [users, posts, notes]).1)
    exact allWritten_conclude noneUnwritten
  exact ⟨rfl, (dry_run_foretells settings.rehearsal tree .migrations).1 rfl, written, formed, leaves,
    (dry_run_foretells settings tree .migrations).2 written fun _ => ⟨formed, leaves⟩⟩

/-- The link through which the migrations are found is where the first table has
its file.  The run replaces it and can read no further migration; the dry run
reads them all. -/
theorem dry_run_misses_replaced_link :
    let settings : Settings :=
      { migrationsDirectory := "out/User/UserRequest.php", outputDirectory := "out",
        onFailure := .proceed }
    let tree : FileTree :=
      { entries := [(["m"], .directory),
          (["m", "1_users.php"], .file (.text "Schema::create('users', fn ($table) => 0);")),
          (["m", "2_posts.php"], .file (.text "Schema::create('posts', fn ($table) => 0);")),
          (["out"], .directory), (["out", "User"], .directory),
          (["out", "User", "UserRequest.php"], .link "../../m")] }
    ∃ sources real last dry, tree.WellFormed ∧ settings.dryRun = false ∧
      migrationSources settings tree = .ok sources ∧
      ofMigrations settings tree = (.ok real, last) ∧
      ofMigrations settings.rehearsal tree = (.ok dry, tree) ∧
      AllWritten (.ok real) ∧ SparesSources settings tree sources ∧
      (∀ place ∈ real.written, Source.migration place ∉ sources) ∧
      dry.failures ≠ real.failures ∧ dry.files ≠ real.files := by
  intro settings tree
  let users : Source := .migration "out/User/UserRequest.php/1_users.php"
  let posts : Source := .migration "out/User/UserRequest.php/2_posts.php"
  have located : migrationSources settings tree = .ok [users, posts] :=
    migrationSources_of_listed ["m"] ["1_users.php", "2_posts.php"]
      ["out/User/UserRequest.php/1_users.php", "out/User/UserRequest.php/2_posts.php"]
      (by decide +kernel) rfl (by decide) (by decide +kernel)
  have locatedDry : migrationSources settings.rehearsal tree = .ok [users, posts] := located
  have formed : tree.WellFormed := by decide +kernel
  have spares : SparesSources settings tree [users, posts] :=
    sparesSources_of_places (by decide +kernel)
  obtain ⟨outcomes, last, ran⟩ : ∃ outcomes last, run settings tree [users, posts] = (outcomes, last) :=
    ⟨_, _, rfl⟩
  obtain ⟨rehearsed, same, dryRan⟩ : ∃ rehearsed same,
      run settings.rehearsal tree [users, posts] = (rehearsed, same) := ⟨_, _, rfl⟩
  have unchanged : same = tree := by
    rw [← run_of_dryRun (show settings.rehearsal.dryRun = true from rfl) tree [users, posts], dryRan]
  have real : (outcomes.filterMap Outcome.file?).map GeneratedFile.path = ["User/UserRequest.php"] ∧
      (outcomes.filterMap Outcome.failure?).length = 1 ∧
      outcomes.all (fun outcome => !outcome.isUnwritten) = true := by
    rw [← show (run settings tree [users, posts]).1 = outcomes by rw [ran]]
    decide +kernel
  have dry : (rehearsed.filterMap Outcome.file?).length = 2 ∧
      rehearsed.filterMap Outcome.failure? = [] := by
    rw [← show (run settings.rehearsal tree [users, posts]).1 = rehearsed by rw [dryRan]]
    decide +kernel
  obtain ⟨paths, oneFailure, noneUnwritten⟩ := real
  have reported : ofMigrations settings tree = (.ok (Report.ofOutcomes settings outcomes), last) := by
    rw [ofMigrations, located]
    show ofSources settings tree [users, posts] = _
    rw [ofSources, ran]
    rfl
  have dryReported : ofMigrations settings.rehearsal tree =
      (.ok (Report.ofOutcomes settings.rehearsal rehearsed), tree) := by
    rw [ofMigrations, locatedDry]
    show ofSources settings.rehearsal tree [users, posts] = _
    rw [ofSources, dryRan, unchanged]
    rfl
  have written : AllWritten (conclude settings outcomes) := allWritten_conclude noneUnwritten
  refine ⟨_, _, _, _, formed, rfl, located, reported, dryReported, written, spares, ?_, ?_, ?_⟩
  · intro place member
    obtain ⟨file, inFiles, rfl⟩ := List.mem_map.1 member
    have inPaths := List.mem_map_of_mem inFiles (f := GeneratedFile.path)
    rw [paths, List.mem_singleton] at inPaths
    rw [inPaths]
    have different : Path.join settings.outputDirectory "User/UserRequest.php" ≠
          "out/User/UserRequest.php/1_users.php" ∧
        Path.join settings.outputDirectory "User/UserRequest.php" ≠
          "out/User/UserRequest.php/2_posts.php" := by
      decide
    simp only [users, posts, List.mem_cons, Source.migration.injEq, List.not_mem_nil, or_false]
    exact fun either => either.elim different.1 different.2
  · intro sameFailures
    have failures : rehearsed.filterMap Outcome.failure? = outcomes.filterMap Outcome.failure? :=
      sameFailures
    rw [← failures, dry.2] at oneFailure
    cases oneFailure
  · intro sameFiles
    have files : rehearsed.filterMap Outcome.file? = outcomes.filterMap Outcome.file? := sameFiles
    have two := dry.1
    rw [files, ← List.length_map, paths] at two
    cases two

end Generation

end FormRules
