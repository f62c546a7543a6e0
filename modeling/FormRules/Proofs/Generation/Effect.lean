import FormRules.Proofs.Generation.Run
import FormRules.Proofs.Request.Place

/-!
Contract: what a run leaves of a file tree.

Owns:
- the ends that one source comes to, each with its tree;
- what is at a location after a run, and where its files are.

Does not own: the report on the run.
-/

namespace FormRules

/-! ## Planned files -/

/-- The output directory, without anything idle at its end. -/
def Settings.outputBase (settings : Settings) : String :=
  Path.tidy (Path.stem settings.outputDirectory)

/-- The file is that of a request, in the format of the run. -/
def Settings.Makes (settings : Settings) (file : GeneratedFile) : Prop :=
  ∃ request : Request, request.format = settings.format ∧ file = request.file

theorem Settings.Makes.leaf {settings : Settings} {file : GeneratedFile}
    (makes : settings.Makes file) :
    ∃ parent, Path.Leaf (Path.join settings.outputDirectory file.path) parent ∧
      FileTree.IsAt settings.outputBase parent := by
  obtain ⟨request, _, made⟩ := makes
  rw [made, Request.path_file]
  exact ⟨_, request.leaf settings.outputDirectory, request.isAt settings.outputDirectory⟩

theorem Source.makes_of_plan {settings : Settings} {tree : FileTree} {source : Source}
    {file : GeneratedFile} (planned : source.plan settings tree = .generated file) :
    settings.Makes file := by
  unfold plan at planned
  split at planned
  next extraction _ =>
      cases extraction with
      | table found =>
          exact ⟨Request.ofTable settings found, rfl, (Outcome.generated.inj planned).symm⟩
      | noCreateStatement => exact Outcome.noConfusion planned
      | skippedTable => exact Outcome.noConfusion planned
  next => cases planned

/-! ## One source -/

/-- A source that has no file comes to what is planned for it, and so does every
source in a dry run; otherwise its file is written or not. -/
inductive Source.Ends (settings : Settings) (tree : FileTree) (source : Source) :
    Outcome × FileTree → Prop where
  | planned (idle : settings.dryRun = true ∨ (source.plan settings tree).file? = none) :
      Ends settings tree source (source.plan settings tree, tree)
  | written {file : GeneratedFile} {after : FileTree} {place : String}
      (wet : settings.dryRun = false) (planned : source.plan settings tree = .generated file)
      (done : file.write tree settings.outputDirectory settings.atomicWrites =
        (.ok place, after)) :
      Ends settings tree source (.generated file, after)
  | unwritten {file : GeneratedFile} {after : FileTree} {error : Error}
      (wet : settings.dryRun = false) (planned : source.plan settings tree = .generated file)
      (failed : file.write tree settings.outputDirectory settings.atomicWrites =
        (.error error, after)) :
      Ends settings tree source (.failed source.name error, after)

theorem Source.ends (settings : Settings) (tree : FileTree) (source : Source) :
    source.Ends settings tree (source.process settings tree) := by
  rw [process]
  cases dry : settings.dryRun with
  | true =>
      rw [carryOut_of_dryRun dry]
      exact .planned (.inl dry)
  | false =>
      cases planned : source.plan settings tree with
      | skipped | failed =>
          rw [carryOut, ← planned]
          · exact .planned (.inr (by rw [planned]; rfl))
          · simp
      | generated file =>
          simp only [carryOut, dry, Bool.false_eq_true, if_false]
          cases ends : file.write tree settings.outputDirectory settings.atomicWrites with
          | mk result after =>
              cases result with
              | ok place => exact .written dry planned ends
              | error error => exact .unwritten dry planned ends

theorem Source.makes_of_process {settings : Settings} {tree : FileTree} {source : Source}
    {file : GeneratedFile} (made : (source.process settings tree).1 = .generated file) :
    settings.Makes file := by
  have ends := source.ends settings tree
  generalize source.process settings tree = result at ends made
  cases ends with
  | planned => exact makes_of_plan made
  | written wet planned done =>
      cases Outcome.generated.inj made
      exact makes_of_plan planned
  | unwritten => cases made

/-- What a source leaves of a tree: directories may have been made, and where
its file is written, it is put where the tree receives it then. -/
inductive Source.Leaves (settings : Settings) (tree : FileTree) : Outcome × FileTree → Prop where
  | grown {outcome : Outcome} {after : FileTree} (grown : tree.Grows after)
      (noFile : settings.dryRun = true ∨ outcome.file? = none) :
      Leaves settings tree (outcome, after)
  | put {file : GeneratedFile} {middle : FileTree} {location : Location}
      (makes : settings.Makes file) (grown : tree.Grows middle)
      (receives : middle.Receives settings.atomicWrites
        (Path.join settings.outputDirectory file.path) location) :
      Leaves settings tree (.generated file, middle.put location (.file (.text file.content)))

theorem Source.leaves (settings : Settings) (tree : FileTree) (source : Source) :
    Source.Leaves settings tree (source.process settings tree) := by
  have ends := source.ends settings tree
  generalize source.process settings tree = result at ends
  cases ends with
  | planned idle => exact .grown .refl idle
  | unwritten wet planned failed =>
      obtain ⟨parent, leaf, isAt⟩ := (makes_of_plan planned).leaf
      exact .grown (GeneratedFile.grows_of_write_error leaf isAt.isTidy failed) (.inr rfl)
  | written wet planned done =>
      have makes := makes_of_plan planned
      obtain ⟨parent, leaf, isAt⟩ := makes.leaf
      obtain ⟨_, middle, location, grown, receives, rfl⟩ :=
        GeneratedFile.receives_of_write_ok leaf isAt.isTidy done
      exact .put makes grown receives

namespace Generation

variable {settings : Settings} {tree last : FileTree} {sources before : List Source}
  {location : Location}

/-! ## The tree after a run -/

theorem process_evolves (settings : Settings) (tree : FileTree) (source : Source) :
    tree.Evolves (source.process settings tree).2 := by
  have leaves := source.leaves settings tree
  generalize source.process settings tree = result at leaves
  cases leaves with
  | grown grown => exact grown.toExtends.toEvolves
  | put _ grown receives => exact grown.toExtends.toEvolves.trans (receives.evolves _)

theorem run_evolves (settings : Settings) (tree : FileTree) (sources : List Source) :
    tree.Evolves (run settings tree sources).2 := by
  induction tree, sources using run_induction with
  | nil tree => exact .refl tree
  | cons tree source rest inductionHypothesis =>
      rw [run_cons]
      exact (process_evolves settings tree source).trans inductionHypothesis

theorem process_wellFormed (formed : tree.WellFormed) (settings : Settings) (source : Source) :
    (source.process settings tree).2.WellFormed := by
  have leaves := source.leaves settings tree
  generalize source.process settings tree = result at leaves
  cases leaves with
  | grown grown => exact grown.wellFormed formed
  | put _ grown receives =>
      have middleFormed := grown.wellFormed formed
      exact middleFormed.put (receives.isPlace middleFormed) receives.free _

/-- A run leaves a tree that a file system can hold. -/
theorem run_wellFormed (formed : tree.WellFormed) (settings : Settings) (sources : List Source) :
    (run settings tree sources).2.WellFormed := by
  induction tree, sources using run_induction with
  | nil tree => exact formed
  | cons tree source rest inductionHypothesis =>
      rw [run_cons]
      exact inductionHypothesis (process_wellFormed formed settings source)

/-- Without replacing, a run keeps every link. -/
theorem run_keepsLinks (direct : settings.atomicWrites = false) (tree : FileTree)
    (sources : List Source) : tree.KeepsLinks (run settings tree sources).2 := by
  induction tree, sources using run_induction with
  | nil tree => exact fun _ _ there => there
  | cons tree source rest inductionHypothesis =>
      rw [run_cons]
      intro location target there
      apply inductionHypothesis
      have leaves := source.leaves settings tree
      generalize source.process settings tree = result at leaves
      cases leaves with
      | grown grown => exact grown.toExtends.keepsLinks location target there
      | put _ grown receives =>
          exact receives.keepsLinks direct _ location target
            (grown.toExtends.keepsLinks location target there)

theorem run_of_dryRun (dry : settings.dryRun = true) (tree : FileTree) (sources : List Source) :
    (run settings tree sources).2 = tree := by
  induction tree, sources using run_induction with
  | nil tree => rfl
  | cons tree source rest inductionHypothesis =>
      rw [run_cons, inductionHypothesis, Source.process, Source.carryOut_of_dryRun dry]

/-- The files among outcomes. -/
def filesOf (outcomes : List Outcome) : List GeneratedFile :=
  outcomes.filterMap Outcome.file?

theorem filesOf_cons (outcome : Outcome) (outcomes : List Outcome) :
    filesOf (outcome :: outcomes) = outcome.file?.toList ++ filesOf outcomes := by
  rw [filesOf, List.filterMap_cons]
  cases outcome.file? <;> rfl

/-- A run that reports no file makes directories only. -/
theorem run_grows {sources : List Source}
    (noFile : filesOf (run settings tree sources).1 = []) :
    tree.Grows (run settings tree sources).2 := by
  induction tree, sources using run_induction with
  | nil tree => exact .refl
  | cons tree source rest inductionHypothesis =>
      rw [run_cons] at noFile ⊢
      rw [filesOf_cons, List.append_eq_nil_iff] at noFile
      have restGrows := inductionHypothesis noFile.2
      have leaves := source.leaves settings tree
      generalize source.process settings tree = result at leaves noFile restGrows
      cases leaves with
      | grown grown => exact grown.trans restGrows
      | put => cases noFile.1

/-! ## Places that a run writes to -/

/-- The run puts one of its files at the location. -/
inductive Puts (settings : Settings) : FileTree → List Source → Location → Prop where
  | here {tree middle : FileTree} {source : Source} {rest : List Source} {file : GeneratedFile}
      {location : Location} (grown : tree.Grows middle)
      (receives : middle.Receives settings.atomicWrites
        (Path.join settings.outputDirectory file.path) location)
      (put : source.process settings tree =
        (.generated file, middle.put location (.file (.text file.content)))) :
      Puts settings tree (source :: rest) location
  | later {tree : FileTree} {source : Source} {rest : List Source} {location : Location}
      (puts : Puts settings (source.process settings tree).2
        (remaining settings (source.process settings tree).1 rest) location) :
      Puts settings tree (source :: rest) location

/-- What is put over some sources is put over more of them. -/
theorem Puts.append (puts : Puts settings tree before location) (rest : List Source) :
    Puts settings tree (before ++ rest) location := by
  induction tree, before using run_induction with
  | nil tree => cases puts
  | cons tree source others inductionHypothesis =>
      cases puts with
      | here grown receives put => exact .here grown receives put
      | later puts =>
          refine .later ?_
          have more := inductionHypothesis puts
          cases ends : endsRun settings (source.process settings tree).1 with
          | true =>
              have none : remaining settings (source.process settings tree).1 others = [] := by
                rw [remaining, if_pos ends]
              rw [none] at puts
              cases puts
          | false =>
              simp only [remaining, ends, Bool.false_eq_true, if_false] at more ⊢
              exact more

/-- Where the files of a run are put.  A file that has been put is the first entry
of the tree. -/
def places (settings : Settings) (tree : FileTree) : List Source → List Location
  | [] => []
  | source :: rest =>
      let (outcome, after) := source.process settings tree
      let others := if endsRun settings outcome then [] else places settings after rest
      match outcome.file? with
      | some _ => (after.entries.head?.map Prod.fst).toList ++ others
      | none => others

theorem Puts.mem_places {location : Location} (puts : Puts settings tree sources location) :
    location ∈ places settings tree sources := by
  induction puts with
  | here _ _ put =>
      rw [places, put]
      exact List.mem_cons_self
  | @later tree source rest location _ inductionHypothesis =>
      rw [places]
      rw [remaining] at inductionHypothesis
      generalize source.process settings tree = result at inductionHypothesis ⊢
      have amongOthers : location ∈
          if endsRun settings result.1 then [] else places settings result.2 rest := by
        rw [apply_ite (places settings result.2)] at inductionHypothesis
        exact inductionHypothesis
      show location ∈ match result.1.file? with | some _ => _ | none => _
      split
      · exact List.mem_append_right _ amongOthers
      · exact amongOthers

/-- Where it puts no file, a run makes a directory at most. -/
theorem grown_run (spared : ¬ Puts settings tree sources location) :
    Entry.Grown (tree.get? location) ((run settings tree sources).2.get? location) := by
  induction tree, sources using run_induction with
  | nil tree => exact .inl rfl
  | cons tree source rest inductionHypothesis =>
      rw [run_cons]
      refine Entry.Grown.trans ?_ (inductionHypothesis fun puts => spared (.later puts))
      have leaves := source.leaves settings tree
      generalize processed : source.process settings tree = result at leaves
      cases leaves with
      | grown grown => exact grown.get? location
      | @put file middle place _ grown receives =>
          have different : location ≠ place := by
            rintro rfl
            exact spared (.here grown receives processed)
          rw [FileTree.get?_put_of_ne middle _ different]
          exact grown.get? location

/-! ## The files of a run -/

/-- The directories of the files are there. -/
def KeepsWays (settings : Settings) (tree : FileTree) (files : List GeneratedFile) : Prop :=
  ∀ file ∈ files, ∀ parent,
    Path.parent? (Path.join settings.outputDirectory file.path) = some parent →
      tree.Stands parent

/-- The output path leads to a file at the location. -/
def LeadsTo (settings : Settings) (tree : FileTree) (file : GeneratedFile)
    (location : Location) : Prop :=
  ∃ content, tree.find (Path.join settings.outputDirectory file.path) =
    .ok (.existing location (.file content))

/-- A file that has been written is found in the end where it was put. -/
theorem find_of_written {file : GeneratedFile} {middle : FileTree} {location : Location}
    {parent : String} {sources : List Source} {content : Content}
    (leaf : Path.Leaf (Path.join settings.outputDirectory file.path) parent)
    (receives : middle.Receives settings.atomicWrites
      (Path.join settings.outputDirectory file.path) location)
    (stands : (run settings (middle.put location (.file content)) sources).2.Stands parent) :
    ∃ other,
      (run settings (middle.put location (.file content)) sources).2.find
          (Path.join settings.outputDirectory file.path) =
        .ok (.existing location (.file other)) ∧
      (run settings (middle.put location (.file content)) sources).2.get? location =
        some (.file other) := by
  obtain ⟨other, found, there⟩ := receives.still leaf (run_evolves settings _ sources) stands
    (fun direct => run_keepsLinks direct _ sources)
  exact ⟨other, FileTree.find_of_spot leaf found, there⟩

/-- Where a run puts a file, one of its output paths leads in the end. -/
theorem leadsTo_of_puts
    (keeps : KeepsWays settings (run settings tree sources).2
      (filesOf (run settings tree sources).1)) (puts : Puts settings tree sources location) :
    ∃ file ∈ filesOf (run settings tree sources).1,
      LeadsTo settings (run settings tree sources).2 file location := by
  induction puts with
  | @here tree middle source rest file location grown receives put =>
      obtain ⟨parent, leaf, _⟩ := (Source.makes_of_process (congrArg Prod.fst put)).leaf
      rw [run_cons, put] at keeps ⊢
      have member : file ∈ filesOf (.generated file :: (run settings (middle.put location
          (.file (.text file.content))) (remaining settings (.generated file) rest)).1) := by
        rw [filesOf_cons]
        exact List.mem_append_left _ (by simp [Outcome.file?])
      obtain ⟨other, found, _⟩ :=
        find_of_written leaf receives (keeps file member parent leaf.above)
      exact ⟨file, member, other, found⟩
  | @later tree source rest location _ inductionHypothesis =>
      rw [run_cons, filesOf_cons] at keeps ⊢
      obtain ⟨file, member, leads⟩ := inductionHypothesis
        fun file member => keeps file (List.mem_append_right _ member)
      exact ⟨file, List.mem_append_right _ member, leads⟩

/-- Elsewhere than where its files are, a run makes directories at most. -/
theorem get?_run {sources : List Source}
    (keeps : KeepsWays settings (run settings tree sources).2
      (filesOf (run settings tree sources).1)) (location : Location) :
    Entry.Grown (tree.get? location) ((run settings tree sources).2.get? location) ∨
      ∃ file ∈ filesOf (run settings tree sources).1,
        LeadsTo settings (run settings tree sources).2 file location := by
  by_cases puts : Puts settings tree sources location
  · exact .inr (leadsTo_of_puts keeps puts)
  · exact .inl (grown_run puts)

/-- A file is there in the end, with its content unless a later file has come to
the same location. -/
theorem find_run {sources : List Source} (wet : settings.dryRun = false)
    (keeps : KeepsWays settings (run settings tree sources).2
      (filesOf (run settings tree sources).1))
    {before later : List GeneratedFile} {file : GeneratedFile}
    (files : filesOf (run settings tree sources).1 = before ++ file :: later) :
    ∃ location content,
      (run settings tree sources).2.find (Path.join settings.outputDirectory file.path) =
        .ok (.existing location (.file content)) ∧
      ((∀ other ∈ later, ¬ LeadsTo settings (run settings tree sources).2 other location) →
        content = .text file.content) := by
  induction tree, sources using run_induction generalizing before with
  | nil tree => simp [run, filesOf] at files
  | cons tree source rest inductionHypothesis =>
      rw [run_cons] at keeps files ⊢
      simp only [filesOf_cons] at keeps files ⊢
      have keepsLater := fun file member => keeps file (List.mem_append_right _ member)
      have leaves := source.leaves settings tree
      have continued := @inductionHypothesis keepsLater
      generalize source.process settings tree = result at leaves keeps files keepsLater continued
      cases leaves with
      | grown _ noFile =>
          rcases noFile with dry | none
          · rw [wet] at dry
            cases dry
          · rw [none] at files
            exact continued files
      | @put first middle place makes grown receives =>
          cases before with
          | cons head more =>
              exact continued (List.cons.inj files).2
          | nil =>
              obtain ⟨rfl, rest⟩ := List.cons.inj files
              obtain ⟨parent, leaf, _⟩ := makes.leaf
              obtain ⟨other, found, there⟩ := find_of_written leaf receives
                (keeps first (by simp [Outcome.file?]) parent leaf.above)
              refine ⟨place, other, found, ?_⟩
              intro noneLater
              have here := FileTree.get?_put_self middle (.file (.text first.content))
                (FileTree.ne_nil_of_get? receives.free)
              rcases get?_run keepsLater place with grown | ⟨later, member, leads⟩
              · rw [grown.existing here] at there
                cases there
                rfl
              · exact absurd leads (noneLater later (rest ▸ member))

end Generation

end FormRules
