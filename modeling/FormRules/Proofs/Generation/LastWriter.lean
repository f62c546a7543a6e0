import FormRules.Proofs.Generation.Effect

/-!
Contract: what is in the files of a run, and in all other files.

Owns:
- where the file of an output path is, by its name;
- files that several sources come to: the last one stays.

Does not own: which of the sources have a file.
-/

namespace FormRules.Generation

variable {settings : Settings} {tree after : FileTree} {report : Report}

/-! ## The report of a run -/

/-- A report is on the outcomes of some run over sources. -/
theorem exists_run_of_report
    (ran : ofMigrations settings tree = (.ok report, after) ∨
      ∃ schema, ofSchema settings schema tree = (.ok report, after)) :
    ∃ sources, report = Report.ofOutcomes settings (run settings tree sources).1 ∧
      after = (run settings tree sources).2 := by
  have ofRun : ∀ sources, ofSources settings tree sources = (.ok report, after) →
      report = Report.ofOutcomes settings (run settings tree sources).1 ∧
        after = (run settings tree sources).2 := by
    intro sources concluded
    exact ⟨eq_ofOutcomes_of_conclude (congrArg Prod.fst concluded),
      (congrArg Prod.snd concluded).symm⟩
  rcases ran with ran | ⟨schema, ran⟩
  · rw [ofMigrations] at ran
    split at ran
    next sources _ => exact ⟨sources, ofRun sources ran⟩
    next => cases ran
  · exact ⟨schemaSources schema, ofRun _ ran⟩

theorem makes_of_mem_run {sources : List Source} {file : GeneratedFile}
    (member : file ∈ filesOf (run settings tree sources).1) : settings.Makes file := by
  induction tree, sources using run_induction with
  | nil tree => cases member
  | cons tree source rest inductionHypothesis =>
      rw [run_cons, filesOf_cons] at member
      rcases List.mem_append.1 member with first | later
      · cases made : (source.process settings tree).1 with
        | generated given =>
            rw [made] at first
            cases List.mem_singleton.1 first
            exact Source.makes_of_process made
        | skipped | failed =>
            rw [made] at first
            cases first
      · exact inductionHypothesis later

/-! ## Output paths -/

/-- No output path that is a link leads to the file of another output path. -/
def LinksApart (settings : Settings) (tree : FileTree) (files : List GeneratedFile) : Prop :=
  ∀ file ∈ files, ∀ other ∈ files, other.path ≠ file.path →
    tree.isLink (Path.join settings.outputDirectory other.path) = true →
      ∀ location, LeadsTo settings tree file location → ¬ LeadsTo settings tree other location

/-- A file at the output path itself has the last name of the path. -/
theorem location_of_leadsTo {request : Request} {location : Location}
    (keeps : ∀ parent,
      Path.parent? (Path.join settings.outputDirectory request.relativePath) = some parent →
        tree.Stands parent)
    (noLink : tree.isLink (Path.join settings.outputDirectory request.relativePath) = false)
    (leads : LeadsTo settings tree request.file location) :
    ∃ directory, location = directory ++ [request.fileName] := by
  have leaf := request.leaf settings.outputDirectory
  obtain ⟨content, found⟩ := leads
  rw [Request.path_file] at found
  have accepted := FileTree.accepted_of_find found
  obtain ⟨directory, stands⟩ := keeps _ leaf.above
  have own := FileTree.own_of_lookIn leaf stands accepted
    (request.getLast?_names settings.outputDirectory)
  rw [FileTree.find_eq_walk leaf accepted, FileTree.walk_of_own own accepted noLink] at found
  exact ⟨directory, (FileTree.location_of_lookIn found).1⟩

theorem not_leadsTo_of_path_ne {files : List GeneratedFile} {file other : GeneratedFile}
    {location : Location} (keeps : KeepsWays settings tree files)
    (apart : LinksApart settings tree files) (made : ∀ file ∈ files, settings.Makes file)
    (member : file ∈ files) (otherMember : other ∈ files) (different : other.path ≠ file.path)
    (leads : LeadsTo settings tree file location) : ¬ LeadsTo settings tree other location := by
  intro otherLeads
  cases otherLink : tree.isLink (Path.join settings.outputDirectory other.path) with
  | true => exact apart file member other otherMember different otherLink location leads otherLeads
  | false =>
  cases link : tree.isLink (Path.join settings.outputDirectory file.path) with
  | true =>
      exact apart other otherMember file member different.symm link location otherLeads leads
  | false =>
  have ways := keeps file member
  have otherWays := keeps other otherMember
  obtain ⟨request, format, rfl⟩ := made file member
  obtain ⟨otherRequest, otherFormat, rfl⟩ := made other otherMember
  simp only [Request.path_file] at ways otherWays link otherLink different
  obtain ⟨directory, split⟩ := location_of_leadsTo ways link leads
  obtain ⟨otherDirectory, otherSplit⟩ := location_of_leadsTo otherWays otherLink otherLeads
  rw [split] at otherSplit
  have same := List.singleton_inj.1
    (List.append_inj_right' otherSplit (by simp only [List.length_singleton]))
  exact different (Request.relativePath_of_fileName (otherFormat.trans format.symm) same.symm)

/-! ## All files -/

/-- After a run with a report, the file at an output path holds what the last
source with this path calls for, and all other files are as before.  The run
must not have cut the way to an output directory, by replacing a link on it,
and no output path may be a link to the file of another one. -/
theorem last_writer_wins (wet : settings.dryRun = false)
    (ran : ofMigrations settings tree = (.ok report, after) ∨
      ∃ schema, ofSchema settings schema tree = (.ok report, after))
    (keeps : KeepsWays settings after report.files)
    (apart : LinksApart settings after report.files) :
    (∀ before file later, report.files = before ++ file :: later →
      (∀ other ∈ later, other.path ≠ file.path) →
        after.readText (Path.join settings.outputDirectory file.path) = .ok file.content) ∧
    ∀ location content, (∀ file ∈ report.files, ¬ LeadsTo settings after file location) →
      (after.get? location = some (.file content) ↔
        tree.get? location = some (.file content)) := by
  obtain ⟨sources, rfl, rfl⟩ := exists_run_of_report ran
  have files : (Report.ofOutcomes settings (run settings tree sources).1).files =
      filesOf (run settings tree sources).1 := rfl
  rw [files] at keeps apart ⊢
  constructor
  · intro before file later split isLast
    obtain ⟨location, content, found, lastContent⟩ := find_run wet keeps split
    have isContent : content = .text file.content := by
      apply lastContent
      intro other member
      have inFiles : ∀ given, given = file ∨ given ∈ later →
          given ∈ filesOf (run settings tree sources).1 := by
        intro given among
        rw [split]
        simp only [List.mem_append, List.mem_cons]
        exact .inr among
      exact not_leadsTo_of_path_ne keeps apart (fun _ => makes_of_mem_run)
        (inFiles file (.inl rfl)) (inFiles other (.inr member)) (isLast other member)
        ⟨content, found⟩
    rw [FileTree.readText, found, isContent]
    rfl
  · intro location content elsewhere
    rcases get?_run keeps location with (same | ⟨absent, made⟩) | ⟨file, member, leads⟩
    · rw [same]
    · rw [absent, made]
      simp
    · exact absurd leads (elsewhere file member)

/-- Two tables of one class, and a note beside their file. -/
theorem last_writer_wins_same_class :
    let settings : Settings := { outputDirectory := "out" }
    let user : Table := ⟨"user", [⟨"name", .string, none, false, false, none⟩], by decide⟩
    let users : Table := ⟨"users", [⟨"email", .string, none, false, false, none⟩], by decide⟩
    let tree : FileTree :=
      { entries := [(["out"], .directory), (["out", "User"], .directory),
          (["out", "User", "note"], .file (.text "by hand"))] }
    ∃ report after, settings.dryRun = false ∧
      ofSchema settings { tables := [user, users] } tree = (.ok report, after) ∧
      report.files.map GeneratedFile.table = ["user", "users"] ∧
      KeepsWays settings after report.files ∧ LinksApart settings after report.files ∧
      (∀ before file later, report.files = before ++ file :: later →
        (∀ other ∈ later, other.path ≠ file.path) →
          after.readText (Path.join settings.outputDirectory file.path) = .ok file.content) ∧
      ∀ location content, (∀ file ∈ report.files, ¬ LeadsTo settings after file location) →
        (after.get? location = some (.file content) ↔
          tree.get? location = some (.file content)) := by
  intro settings user users tree
  let schema : Schema := { tables := [user, users] }
  obtain ⟨files, directory⟩ :
      (ofSchema settings schema tree).1.toOption.map (fun report => report.files.map fun file =>
        (file.table, file.path)) =
          some [("user", "User/UserRequest.php"), ("users", "User/UserRequest.php")] ∧
        (ofSchema settings schema tree).2.isDirectory "out/User" = true := by
    decide +kernel
  obtain ⟨report, after, ran, both⟩ := exists_report_of_map files
  rw [ran] at directory
  have paths : ∀ file ∈ report.files, file.path = "User/UserRequest.php" := by
    intro file member
    have inBoth := List.mem_map_of_mem member (f := fun file => (file.table, file.path))
    rw [both] at inBoth
    simp only [List.mem_cons, Prod.mk.injEq, List.not_mem_nil, or_false] at inBoth
    rcases inBoth with ⟨_, same⟩ | ⟨_, same⟩ <;> exact same
  have keeps : KeepsWays settings after report.files := by
    intro file member parent above
    rw [paths file member] at above
    have same : Path.parent? (Path.join settings.outputDirectory "User/UserRequest.php") =
        some "out/User" := by
      decide +kernel
    rw [same] at above
    cases above
    exact (FileTree.isDirectory_iff_stands.1 directory).2
  have apart : LinksApart settings after report.files := by
    intro file member other otherMember different
    rw [paths file member, paths other otherMember] at different
    exact absurd rfl different
  have tables : report.files.map GeneratedFile.table = ["user", "users"] := by
    simpa [Function.comp_def] using congrArg (List.map Prod.fst) both
  exact ⟨report, after, rfl, ran, tables, keeps, apart,
    last_writer_wins rfl (.inr ⟨_, ran⟩) keeps apart⟩

/-- Written through a link, the file of the second table replaces that of the
first one. -/
theorem last_writer_through_link :
    let settings : Settings := { outputDirectory := "out", atomicWrites := false }
    let posts : Table := ⟨"posts", [], by decide⟩
    let users : Table := ⟨"users", [], by decide⟩
    let tree : FileTree :=
      { entries := [(["out"], .directory), (["out", "User"], .directory),
          (["out", "User", "UserRequest.php"], .link "../Post/PostRequest.php")] }
    ∃ report after, settings.dryRun = false ∧
      ofSchema settings { tables := [posts, users] } tree = (.ok report, after) ∧
      ∃ before file later, report.files = before ++ file :: later ∧
        (∀ other ∈ later, other.path ≠ file.path) ∧
        after.readText (Path.join settings.outputDirectory file.path) ≠ .ok file.content := by
  intro settings posts users tree
  let schema : Schema := { tables := [posts, users] }
  let first := GeneratedFile.ofTable settings posts
  let second := GeneratedFile.ofTable settings users
  obtain ⟨files, read, otherPath, otherContent⟩ :
      (ofSchema settings schema tree).1.toOption.map Report.files = some [first, second] ∧
        ((ofSchema settings schema tree).2.readText
          (Path.join settings.outputDirectory first.path)).toOption = some second.content ∧
        second.path ≠ first.path ∧ second.content ≠ first.content := by
    decide +kernel
  obtain ⟨report, after, ran, both⟩ := exists_report_of_map files
  rw [ran] at read
  refine ⟨report, after, rfl, ran, [], first, [second], both, ?_, ?_⟩
  · intro other member
    rw [List.mem_singleton.1 member]
    exact otherPath
  · intro same
    rw [same] at read
    exact otherContent (Option.some.inj read).symm

end FormRules.Generation
