import FormRules.Proofs.FileTree.Migrations
import FormRules.Proofs.Generation.Effect

/-!
Contract: the report of a run, against the sources of the run.

Owns:
- what a source calls for, and what it comes to when its turn is there;
- the lists and counts of a report, source by source;
- located files that are read as they have been before the run.

Does not own: what the files of a run hold in the end.
-/

namespace FormRules

/-! ## One source -/

/-- A source calls for a file, or for none: a migration by the text that is read
at its path, a table as it is described. -/
inductive Source.CallsFor (settings : Settings) (tree : FileTree) :
    Source → Option GeneratedFile → Prop where
  | migration {path text : String} (read : tree.readText path = .ok text) :
      CallsFor settings tree (.migration path) (GeneratedFile.ofSource? settings text)
  | kept {table : Table} (kept : settings.skip.skipsTable table.name = false) :
      CallsFor settings tree (.described table)
        (some (GeneratedFile.ofTable settings (table.without settings.skip)))
  | skipped {table : Table} (skipped : settings.skip.skipsTable table.name = true) :
      CallsFor settings tree (.described table) none

/-- The entry that a source contributes when the tree is as given: its file, if
that is written or the run is dry; the fact that it calls for none; or the
reason why it cannot be read or its file cannot be written. -/
inductive Source.ComesTo (settings : Settings) (tree : FileTree) : Source → Outcome → Prop where
  | generated {source : Source} {file : GeneratedFile}
      (calls : source.CallsFor settings tree (some file))
      (settled : settings.dryRun = true ∨ ∃ place after,
        file.write tree settings.outputDirectory settings.atomicWrites = (.ok place, after)) :
      ComesTo settings tree source (.generated file)
  | skipped {source : Source} {reason : SkipReason}
      (calls : source.CallsFor settings tree none) :
      ComesTo settings tree source (.skipped source.name reason)
  | unread {path : String} {fault : FileFault} (unread : tree.readText path = .error fault) :
      ComesTo settings tree (.migration path) (.failed path (.fileRead path fault.message))
  | unwritten {source : Source} {file : GeneratedFile} {error : Error} {after : FileTree}
      (calls : source.CallsFor settings tree (some file)) (wet : settings.dryRun = false)
      (failed : file.write tree settings.outputDirectory settings.atomicWrites =
        (.error error, after)) :
      ComesTo settings tree source (.failed source.name error)

namespace Source

variable {settings : Settings} {tree : FileTree} {source : Source}

/-- What is planned for a source follows what the source calls for. -/
theorem plan_cases (settings : Settings) (tree : FileTree) (source : Source) :
    (∃ file, source.plan settings tree = .generated file ∧
        source.CallsFor settings tree (some file)) ∨
      (∃ reason, source.plan settings tree = .skipped source.name reason ∧
        source.CallsFor settings tree none) ∨
      ∃ path fault, source = .migration path ∧ tree.readText path = .error fault ∧
        source.plan settings tree = .failed path (.fileRead path fault.message) := by
  cases source with
  | migration path =>
      cases read : tree.readText path with
      | error fault =>
          refine .inr (.inr ⟨path, fault, rfl, read, ?_⟩)
          rw [plan, extraction, read]
          rfl
      | ok text =>
          have planned : (Source.migration path).plan settings tree =
              (Extraction.ofSource settings.skip text).plan settings path := by
            rw [plan, extraction, read]
            rfl
          have calls : (Source.migration path).CallsFor settings tree
              ((Extraction.ofSource settings.skip text).plan settings "").file? := .migration read
          rw [planned]
          cases extracted : Extraction.ofSource settings.skip text with
          | table found =>
              rw [extracted] at calls
              exact .inl ⟨_, rfl, calls⟩
          | noCreateStatement | skippedTable =>
              rw [extracted] at calls
              exact .inr (.inl ⟨_, rfl, calls⟩)
  | described table =>
      cases skips : settings.skip.skipsTable table.name with
      | true =>
          refine .inr (.inl ⟨.skippedTable table.name, ?_, .skipped skips⟩)
          rw [plan, extraction, Extraction.ofTable, if_pos skips]
          rfl
      | false =>
          refine .inl ⟨_, ?_, .kept skips⟩
          rw [plan, extraction, Extraction.ofTable, if_neg (by rw [skips]; exact Bool.false_ne_true)]
          rfl

theorem comesTo_process (settings : Settings) (tree : FileTree) (source : Source) :
    source.ComesTo settings tree (source.process settings tree).1 := by
  have ends := source.ends settings tree
  generalize source.process settings tree = result at ends
  rcases plan_cases settings tree source with
    ⟨file, planned, calls⟩ | ⟨reason, planned, calls⟩ | ⟨path, fault, rfl, unread, planned⟩
  · cases ends with
    | planned idle =>
        rw [planned] at idle ⊢
        rcases idle with dry | noFile
        · exact .generated calls (.inl dry)
        · cases noFile
    | @written file _ place wet sameFile done =>
        rw [planned] at sameFile
        cases Outcome.generated.inj sameFile
        exact .generated calls (.inr ⟨place, _, done⟩)
    | unwritten wet sameFile failed =>
        rw [planned] at sameFile
        cases Outcome.generated.inj sameFile
        exact .unwritten calls wet failed
  · cases ends with
    | planned =>
        rw [planned]
        exact .skipped calls
    | written _ sameFile | unwritten _ sameFile =>
        rw [planned] at sameFile
        cases sameFile
  · cases ends with
    | planned =>
        rw [planned]
        exact .unread unread
    | written _ sameFile | unwritten _ sameFile =>
        rw [planned] at sameFile
        cases sameFile

/-- A source calls for one thing at most. -/
theorem CallsFor.unique {called other : Option GeneratedFile}
    (calls : source.CallsFor settings tree called)
    (again : source.CallsFor settings tree other) : other = called := by
  cases calls with
  | @migration path text read =>
      cases again with
      | migration readAgain =>
          rw [read] at readAgain
          rw [Except.ok.inj readAgain]
  | kept kept =>
      cases again with
      | kept => rfl
      | skipped skips =>
          rw [kept] at skips
          cases skips
  | skipped skips =>
      cases again with
      | kept kept =>
          rw [kept] at skips
          cases skips
      | skipped => rfl

/-- The source is skipped exactly if it calls for no file. -/
theorem ComesTo.skipped_iff {outcome : Outcome} (comes : source.ComesTo settings tree outcome) :
    (∃ reason, outcome = .skipped source.name reason) ↔ source.CallsFor settings tree none := by
  cases comes with
  | skipped calls => exact iff_of_true ⟨_, rfl⟩ calls
  | generated calls | unwritten calls =>
      refine iff_of_false (by rintro ⟨reason, same⟩; cases same) ?_
      intro nothing
      cases calls.unique nothing
  | unread unread =>
      refine iff_of_false (by rintro ⟨reason, same⟩; cases same) ?_
      intro nothing
      generalize none = called at nothing
      cases nothing with
      | migration read =>
          rw [unread] at read
          cases read

end Source

namespace Generation

variable {settings : Settings} {tree after : FileTree} {sources before rest : List Source}
  {source : Source} {location : Location} {report : Report}

/-! ## Turns -/

/-- Every source is processed in the tree that the sources before it leave. -/
theorem getElem?_run
    (goesOn : GoesOn settings (run settings tree (before ++ source :: rest)).1) :
    (run settings tree (before ++ source :: rest)).1[before.length]? =
      some (source.process settings (run settings tree before).2).1 := by
  have goesOnBefore := goesOn.of_append
  rw [run_append goesOnBefore, ← length_run goesOnBefore,
    List.getElem?_append_right (Nat.le_refl _), Nat.sub_self, run_cons]
  rfl

/-! ## Located files -/

theorem exists_paths_of_migrationSources (located : migrationSources settings tree = .ok sources) :
    ∃ paths, tree.migrations settings.migrationsDirectory settings.extension = .ok paths ∧
      sources = paths.map .migration := by
  rw [migrationSources] at located
  cases found : tree.migrations settings.migrationsDirectory settings.extension with
  | error error =>
      rw [found] at located
      cases located
  | ok paths =>
      rw [found] at located
      exact ⟨paths, rfl, (Except.ok.inj located).symm⟩

/-- The sources in a directory whose names are listed in order. -/
theorem migrationSources_of_listed (directory : Location) (names paths : List String)
    (found : (tree.find settings.migrationsDirectory).toOption =
      some (.existing directory .directory))
    (listed : (tree.entries.filterMap fun item =>
      if item.1.dropLast = directory then item.1.getLast? else none) = names)
    (inOrder : names.Pairwise (· ≤ ·))
    (located : (names.filter (tree.isMigration directory settings.extension)).map
      (Path.join settings.migrationsDirectory) = paths) :
    migrationSources settings tree = .ok (paths.map .migration) := by
  have there : tree.find settings.migrationsDirectory = .ok (.existing directory .directory) := by
    cases search : tree.find settings.migrationsDirectory with
    | error fault =>
        rw [search] at found
        cases found
    | ok place =>
        rw [search] at found
        rw [Option.some.inj found]
  rw [migrationSources, FileTree.migrations_of_find there, FileTree.migrationNames,
    FileTree.children_of_pairwise listed inOrder, located]
  rfl

/-- A migration that is read as before calls for the same. -/
theorem plan_congr {path : String} (same : after.readText path = tree.readText path) :
    (Source.migration path).plan settings after = (Source.migration path).plan settings tree := by
  rw [Source.plan, Source.plan, Source.extraction, Source.extraction, same]

/-- Where the path of a migration leads. -/
def migrationLocation? (tree : FileTree) : Source → Option Location
  | .migration path => (tree.find path).toOption.map Place.location
  | .described _ => none

/-- No file of the run is put in place of a located one. -/
def SparesSources (settings : Settings) (tree : FileTree) (sources : List Source) : Prop :=
  ∀ location content path, Puts settings tree sources location → .migration path ∈ sources →
    tree.find path ≠ .ok (.existing location (.file content))

theorem sparesSources_of_places
    (apart : ∀ source ∈ sources, ∀ location ∈ places settings tree sources,
      migrationLocation? tree source ≠ some location) : SparesSources settings tree sources := by
  intro location content path puts member found
  apply apart _ member location puts.mem_places
  rw [migrationLocation?, found]
  rfl

section Located

variable (formed : tree.WellFormed) (located : migrationSources settings tree = .ok sources)
  (spares : SparesSources settings tree sources) {path : String}
  (split : sources = before ++ .migration path :: rest)

include formed located spares split

/-- A located file is in the migrations directory, by a proper name, and is kept
where its path finds it until its turn has come. -/
theorem exists_kept_of_located :
    ∃ directory name content, Route.IsProper name ∧
      path = Path.join settings.migrationsDirectory name ∧
      tree.StandsAt settings.migrationsDirectory directory ∧
      tree.get? (directory ++ [name]) = some (.file content) ∧
      (tree.find path = .ok (.existing (directory ++ [name]) (.file content)) →
        (run settings tree before).2.get? (directory ++ [name]) = some (.file content)) := by
  have member : .migration path ∈ sources := by
    rw [split]
    simp
  obtain ⟨paths, migrations, isMapped⟩ := exists_paths_of_migrationSources located
  obtain ⟨directory, found, named⟩ := FileTree.exists_name_of_mem_migrations formed migrations
  have inPaths : path ∈ paths := by
    rw [isMapped] at member
    obtain ⟨given, inPaths, same⟩ := List.mem_map.1 member
    cases same
    exact inPaths
  obtain ⟨name, content, proper, isJoined, there⟩ := named path inPaths
  refine ⟨directory, name, content, proper, isJoined, FileTree.standsAt_of_find found, there, ?_⟩
  intro foundFile
  have spared : ¬ Puts settings tree before (directory ++ [name]) := by
    intro puts
    apply spares _ content _ _ member foundFile
    rw [split]
    exact puts.append _
  exact (grown_run spared).existing there

/-- A run that puts no file in place of a located one reads each as it has been
before the run, or not at all. -/
theorem readText_run :
    (run settings tree before).2.readText path = tree.readText path ∨
      ∃ fault, (run settings tree before).2.readText path = .error fault := by
  obtain ⟨directory, name, content, proper, rfl, stands, there, kept⟩ :=
    exists_kept_of_located formed located spares split
  exact FileTree.readText_join_or proper (run_evolves settings tree before) stands there kept

end Located

/-! ## The report -/

/-- The report holds the outcomes of the sources, one each, and its counts are
counts of them. -/
structure Accounts (settings : Settings) (sources : List Source) (outcomes : List Outcome)
    (report : Report) : Prop where
  each : outcomes.length = sources.length
  files : report.files = outcomes.filterMap Outcome.file?
  skipped : report.skipped = outcomes.filterMap Outcome.skip?
  failures : report.failures = outcomes.filterMap Outcome.failure?
  written : report.written =
    if settings.dryRun then []
    else report.files.map fun file => Path.join settings.outputDirectory file.path
  noFailure : settings.onFailure = .abort → report.failures = []
  counts : report.summary.files + report.summary.withoutCreate + report.summary.skippedTables +
    report.summary.failures = sources.length
  bytes : report.summary.bytes =
    (report.files.map fun file => file.content.utf8ByteSize).foldr (· + ·) 0

theorem totalBytes_eq (files : List GeneratedFile) :
    Report.totalBytes files =
      (files.map fun file => file.content.utf8ByteSize).foldr (· + ·) 0 := by
  induction files with
  | nil => rfl
  | cons file rest inductionHypothesis =>
      rw [Report.totalBytes, inductionHypothesis, List.map_cons, List.foldr_cons]

/-- Every outcome is in one list, and every skip in one of two counts. -/
theorem counts_ofOutcomes (settings : Settings) (outcomes : List Outcome) :
    (Report.ofOutcomes settings outcomes).summary.files +
        (Report.ofOutcomes settings outcomes).summary.withoutCreate +
        (Report.ofOutcomes settings outcomes).summary.skippedTables +
        (Report.ofOutcomes settings outcomes).summary.failures = outcomes.length := by
  simp only [Report.summary, Report.ofOutcomes]
  induction outcomes with
  | nil => rfl
  | cons outcome rest inductionHypothesis =>
      rw [List.length_cons, ← inductionHypothesis]
      cases outcome with
      | generated | failed =>
          simp only [List.filterMap_cons, Outcome.file?, Outcome.skip?, Outcome.failure?,
            List.length_cons]
          omega
      | skipped source reason =>
          cases reason <;>
            simp only [List.filterMap_cons, Outcome.file?, Outcome.skip?, Outcome.failure?,
              List.filter_cons, SkipReason.isTable, Bool.not_false, Bool.not_true, if_true,
              Bool.false_eq_true, if_false, List.length_cons] <;>
            omega

theorem accounts_ofOutcomes {report : Report}
    (concluded : conclude settings (run settings tree sources).1 = .ok report) :
    Accounts settings sources (run settings tree sources).1 report := by
  have goesOn := goesOn_of_conclude concluded
  obtain rfl := eq_ofOutcomes_of_conclude concluded
  refine ⟨length_run goesOn, rfl, rfl, rfl, rfl, ?_, ?_, totalBytes_eq _⟩
  · intro aborts
    apply List.filterMap_eq_nil_iff.2
    intro outcome member
    exact goesOn.failure?_eq_none aborts member
  · rw [counts_ofOutcomes, length_run goesOn]

/-- A report accounts for every source exactly once.  The outcome of a source is
what the source comes to in the tree that the sources before it leave; it is
skipped exactly if it calls for no file there.  What a source calls for in its
turn it has called for before the run, unless files of the run are put in place
of located ones. -/
theorem sources_accounted
    (ran : migrationSources settings tree = .ok sources ∧
        ofMigrations settings tree = (.ok report, after) ∨
      ∃ schema, sources = schemaSources schema ∧
        ofSchema settings schema tree = (.ok report, after)) :
    ∃ outcomes, Accounts settings sources outcomes report ∧
      ∀ before source rest, sources = before ++ source :: rest →
        ∃ outcome, outcomes[before.length]? = some outcome ∧
          source.ComesTo settings (run settings tree before).2 outcome ∧
          ((∃ reason, outcome = .skipped source.name reason) ↔
            source.CallsFor settings (run settings tree before).2 none) ∧
          (tree.WellFormed → SparesSources settings tree sources →
            ∀ called, source.CallsFor settings (run settings tree before).2 called →
              source.CallsFor settings tree called) := by
  have concluded : conclude settings (run settings tree sources).1 = .ok report := by
    rcases ran with ⟨located, ran⟩ | ⟨schema, rfl, ran⟩
    · rw [ofMigrations, located] at ran
      exact congrArg Prod.fst ran
    · exact congrArg Prod.fst ran
  refine ⟨_, accounts_ofOutcomes concluded, ?_⟩
  intro before source rest split
  have comes := source.comesTo_process settings (run settings tree before).2
  refine ⟨_, ?_, comes, comes.skipped_iff, ?_⟩
  · have goesOn := goesOn_of_conclude concluded
    rw [split] at goesOn ⊢
    exact getElem?_run goesOn
  intro formed spares called calls
  cases calls with
  | kept kept => exact .kept kept
  | skipped skips => exact .skipped skips
  | @migration path text read =>
      rcases ran with ⟨located, _⟩ | ⟨schema, described, _⟩
      · rcases readText_run formed located spares split with same | ⟨fault, unread⟩
        · rw [same] at read
          exact .migration read
        · rw [unread] at read
          cases read
      · have member : Source.migration path ∈ schemaSources schema := by
          rw [← described, split]
          simp
        obtain ⟨table, _, other⟩ := List.mem_map.1 member
        cases other

/-- A table with a file, a skipped one, and one whose directory cannot be made; and
a migration with a file, one without a table, and one that cannot be read, none of
them where a file is put. -/
theorem sources_accounted_mixed :
    (let settings : Settings :=
      { outputDirectory := "out", onFailure := .proceed, skip := { tables := ["logs"] } }
    let users : Table := ⟨"users", [⟨"email", .string, none, false, false, none⟩], by decide⟩
    let logs : Table := ⟨"logs", [], by decide⟩
    let posts : Table := ⟨"posts", [], by decide⟩
    let schema : Schema := { tables := [users, logs, posts] }
    let tree : FileTree :=
      { entries := [(["out"], .directory), (["out", "Post"], .file (.text ""))] }
    ∃ report after, ofSchema settings schema tree = (.ok report, after) ∧
      (report.summary.files = 1 ∧ report.summary.skippedTables = 1 ∧
        report.summary.failures = 1) ∧
      ∃ outcomes, Accounts settings (schemaSources schema) outcomes report ∧
        ∀ before source rest, schemaSources schema = before ++ source :: rest →
          ∃ outcome, outcomes[before.length]? = some outcome ∧
            source.ComesTo settings (run settings tree before).2 outcome ∧
            ((∃ reason, outcome = .skipped source.name reason) ↔
              source.CallsFor settings (run settings tree before).2 none) ∧
            (tree.WellFormed → SparesSources settings tree (schemaSources schema) →
              ∀ called, source.CallsFor settings (run settings tree before).2 called →
                source.CallsFor settings tree called)) ∧
    let settings : Settings :=
      { migrationsDirectory := "m", outputDirectory := "out", onFailure := .proceed }
    let tree : FileTree :=
      { entries := [(["m"], .directory),
          (["m", "1_users.php"], .file (.text "Schema::create('users', fn ($table) => 0);")),
          (["m", "2_notes.php"], .file (.text "")),
          (["m", "3_posts.php"], .file (.binary [255]))] }
    ∃ sources report after, migrationSources settings tree = .ok sources ∧
      ofMigrations settings tree = (.ok report, after) ∧
      (report.summary.files = 1 ∧ report.summary.withoutCreate = 1 ∧
        report.summary.failures = 1) ∧
      tree.WellFormed ∧ SparesSources settings tree sources ∧
      ∃ outcomes, Accounts settings sources outcomes report ∧
        ∀ before source rest, sources = before ++ source :: rest →
          ∃ outcome, outcomes[before.length]? = some outcome ∧
            source.ComesTo settings (run settings tree before).2 outcome ∧
            ((∃ reason, outcome = .skipped source.name reason) ↔
              source.CallsFor settings (run settings tree before).2 none) ∧
            ∀ called, source.CallsFor settings (run settings tree before).2 called →
              source.CallsFor settings tree called := by
  constructor
  · intro settings users logs posts schema tree
    obtain ⟨report, after, ran, counts⟩ :
        ∃ report after, ofSchema settings schema tree = (.ok report, after) ∧
          (report.summary.files = 1 ∧ report.summary.skippedTables = 1 ∧
            report.summary.failures = 1) := by
      have counted : (ofSchema settings schema tree).1.toOption.map (fun report =>
          (report.summary.files, report.summary.skippedTables, report.summary.failures)) =
            some (1, 1, 1) := by
        decide +kernel
      simpa using exists_report_of_map counted
    exact ⟨report, after, ran, counts, sources_accounted (.inr ⟨schema, rfl, ran⟩)⟩
  · intro settings tree
    let sources : List Source :=
      [.migration "m/1_users.php", .migration "m/2_notes.php", .migration "m/3_posts.php"]
    have located : migrationSources settings tree = .ok sources :=
      migrationSources_of_listed ["m"] ["1_users.php", "2_notes.php", "3_posts.php"]
        ["m/1_users.php", "m/2_notes.php", "m/3_posts.php"] (by decide +kernel) rfl (by decide)
        (by decide +kernel)
    obtain ⟨formed, apart, counted⟩ : tree.WellFormed ∧
        (∀ source ∈ sources, ∀ location ∈ places settings tree sources,
          migrationLocation? tree source ≠ some location) ∧
        (ofSources settings tree sources).1.toOption.map (fun report =>
          (report.summary.files, report.summary.withoutCreate, report.summary.failures)) =
            some (1, 1, 1) := by
      decide +kernel
    obtain ⟨report, after, ran, counts⟩ :
        ∃ report after, ofMigrations settings tree = (.ok report, after) ∧
          (report.summary.files = 1 ∧ report.summary.withoutCreate = 1 ∧
            report.summary.failures = 1) := by
      rw [ofMigrations, located]
      simpa using exists_report_of_map counted
    have spares := sparesSources_of_places apart
    obtain ⟨outcomes, accounts, each⟩ := sources_accounted (.inl ⟨located, ran⟩)
    refine ⟨sources, report, after, located, ran, counts, formed, spares, outcomes, accounts, ?_⟩
    intro before source rest split
    obtain ⟨outcome, there, comes, skipped, calls⟩ := each before source rest split
    exact ⟨outcome, there, comes, skipped, calls formed spares⟩

end Generation

end FormRules
