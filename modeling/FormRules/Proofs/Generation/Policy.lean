import FormRules.Command.Generate
import FormRules.Proofs.Generation.Run

/-!
Contract: the two ways to meet a failure, compared on the same sources and the
same file tree.

Owns:
- what a single source comes to, which is the same either way;
- the run that ends at the first failure, as the beginning of the run that
  goes on;
- the command, which fails either way or neither.

Does not own: which sources fail.
-/

namespace FormRules

/-- The same settings with another way to meet a failure. -/
def Settings.withPolicy (settings : Settings) (policy : FailurePolicy) : Settings :=
  { settings with onFailure := policy }

/-! ## One source -/

theorem Source.process_withPolicy (settings : Settings) (policy : FailurePolicy)
    (tree : FileTree) (source : Source) :
    source.process (settings.withPolicy policy) tree = source.process settings tree := by
  cases source <;> rfl

theorem Report.ofOutcomes_withPolicy (settings : Settings) (policy : FailurePolicy)
    (outcomes : List Outcome) :
    Report.ofOutcomes (settings.withPolicy policy) outcomes =
      Report.ofOutcomes settings outcomes :=
  rfl

/-- A failure is recorded under the name of its source. -/
theorem Source.name_of_failure {settings : Settings} {tree : FileTree} {source : Source}
    {name : String} {error : Error}
    (failed : (source.process settings tree).1.failure? = some (name, error)) :
    source.name = name := by
  have plannedName : ∀ recorded cause,
      source.plan settings tree = .failed recorded cause → source.name = recorded := by
    intro recorded cause planned
    unfold plan at planned
    split at planned
    next extraction _ => cases extraction <;> cases planned
    next => exact (Outcome.failed.inj planned).1
  rcases source.carryOut_cases settings tree (source.plan settings tree) with
    planned | ⟨cause, unwritten⟩
  · rw [process, planned] at failed
    cases plan : source.plan settings tree with
    | generated | skipped =>
        rw [plan] at failed
        cases failed
    | failed recorded cause =>
        rw [plan] at failed
        cases failed
        exact plannedName _ _ plan
  · rw [process, unwritten] at failed
    cases failed
    rfl

namespace Generation

/-! ## Runs that go on -/

section Proceed

variable (settings : Settings) (tree : FileTree)

theorem run_proceed_cons (source : Source) (rest : List Source) :
    run (settings.withPolicy .proceed) tree (source :: rest) =
      ((source.process settings tree).1 ::
          (run (settings.withPolicy .proceed) (source.process settings tree).2 rest).1,
        (run (settings.withPolicy .proceed) (source.process settings tree).2 rest).2) := by
  rw [run, Source.process_withPolicy]
  rfl

theorem run_proceed_append (before rest : List Source) :
    run (settings.withPolicy .proceed) tree (before ++ rest) =
      ((run (settings.withPolicy .proceed) tree before).1 ++
          (run (settings.withPolicy .proceed)
            (run (settings.withPolicy .proceed) tree before).2 rest).1,
        (run (settings.withPolicy .proceed)
          (run (settings.withPolicy .proceed) tree before).2 rest).2) :=
  run_append fun _ _ => rfl

/-- Whatever fails, there is a report. -/
theorem ofSources_proceed (sources : List Source) :
    ofSources (settings.withPolicy .proceed) tree sources =
      (.ok (Report.ofOutcomes settings (run (settings.withPolicy .proceed) tree sources).1),
        (run (settings.withPolicy .proceed) tree sources).2) :=
  rfl

end Proceed

/-! ## Runs that end at the first failure -/

theorem run_abort_cons (settings : Settings) (tree : FileTree) (source : Source)
    (rest : List Source) :
    run (settings.withPolicy .abort) tree (source :: rest) =
      if (source.process settings tree).1.failure?.isSome then
        ([(source.process settings tree).1], (source.process settings tree).2)
      else
        ((source.process settings tree).1 ::
            (run (settings.withPolicy .abort) (source.process settings tree).2 rest).1,
          (run (settings.withPolicy .abort) (source.process settings tree).2 rest).2) := by
  rw [run, Source.process_withPolicy]
  rfl

/-- Without failures there is nothing to end the run. -/
theorem run_abort_of_no_failure (settings : Settings) (tree : FileTree) {sources : List Source}
    (noFailure : (run (settings.withPolicy .proceed) tree sources).1.findSome?
      Outcome.failure? = none) :
    run (settings.withPolicy .abort) tree sources =
      run (settings.withPolicy .proceed) tree sources := by
  induction sources generalizing tree with
  | nil => rfl
  | cons source rest inductionHypothesis =>
      rw [run_proceed_cons, List.findSome?_cons] at noFailure
      cases outcome : (source.process settings tree).1.failure? with
      | some failure =>
          rw [outcome] at noFailure
          cases noFailure
      | none =>
          rw [outcome] at noFailure
          rw [run_abort_cons, run_proceed_cons, outcome, inductionHypothesis _ noFailure]
          rfl

/-- The first failure ends the run right after its source. -/
theorem run_abort_of_failure (settings : Settings) (tree : FileTree) {sources : List Source}
    {name : String} {error : Error}
    (failure : (run (settings.withPolicy .proceed) tree sources).1.findSome? Outcome.failure? =
      some (name, error)) :
    ∃ before source rest, sources = before ++ source :: rest ∧ source.name = name ∧
      (run (settings.withPolicy .proceed) tree before).1.findSome? Outcome.failure? = none ∧
      (source.process settings (run (settings.withPolicy .proceed) tree before).2).1.failure? =
        some (name, error) ∧
      run (settings.withPolicy .abort) tree sources =
        run (settings.withPolicy .proceed) tree (before ++ [source]) := by
  induction sources generalizing tree with
  | nil => cases failure
  | cons source rest inductionHypothesis =>
      rw [run_proceed_cons, List.findSome?_cons] at failure
      cases outcome : (source.process settings tree).1.failure? with
      | some found =>
          rw [outcome] at failure
          cases failure
          refine ⟨[], source, rest, rfl, Source.name_of_failure outcome, rfl, outcome, ?_⟩
          rw [run_abort_cons, outcome, List.nil_append, run_proceed_cons]
          rfl
      | none =>
          rw [outcome] at failure
          obtain ⟨before, failing, others, sources, named, noFailure, failed, ended⟩ :=
            inductionHypothesis _ failure
          refine ⟨source :: before, failing, others, by rw [sources]; rfl, named, ?_, ?_, ?_⟩
          · rw [run_proceed_cons, List.findSome?_cons, outcome]
            exact noFailure
          · rw [run_proceed_cons]
            exact failed
          · rw [run_abort_cons, outcome, List.cons_append, run_proceed_cons, ended]
            rfl

/-! ## Both runs over the same sources -/

/-- The run that ends at the first failure follows the one that goes on.  If
nothing fails, it is the same run.  Otherwise its answer is the error of the
first recorded failure, and it leaves the tree that the other run has right
after the failing source: a run over the sources up to that one records this
failure alone, and the other run is completed from there. -/
def AbortFollows (settings : Settings) (tree : FileTree) (sources : List Source)
    (generate : Settings → Except Error Report × FileTree) : Prop :=
  ∃ report last, generate (settings.withPolicy .proceed) = (.ok report, last) ∧
    (report.failures = [] → generate (settings.withPolicy .abort) = (.ok report, last)) ∧
    ∀ name error others, report.failures = (name, error) :: others →
      ∃ before source rest, sources = before ++ source :: rest ∧ source.name = name ∧
        ∃ partialReport reached,
          ofSources (settings.withPolicy .proceed) tree (before ++ [source]) =
            (.ok partialReport, reached) ∧
          partialReport.failures = [(name, error)] ∧
          (run (settings.withPolicy .proceed) reached rest).2 = last ∧
          generate (settings.withPolicy .abort) = (.error error, reached)

theorem abortFollows_ofSources (settings : Settings) (tree : FileTree) (sources : List Source) :
    AbortFollows settings tree sources fun given => ofSources given tree sources := by
  refine ⟨_, _, ofSources_proceed settings tree sources, ?_, ?_⟩
  · intro noFailure
    have none : (run (settings.withPolicy .proceed) tree sources).1.findSome?
        Outcome.failure? = none := by
      rw [← List.head?_filterMap]
      exact congrArg List.head? noFailure
    show (conclude _ _, _) = _
    rw [run_abort_of_no_failure settings tree none, conclude_of_no_failure none,
      Report.ofOutcomes_withPolicy]
  · intro name error others failures
    have first : (run (settings.withPolicy .proceed) tree sources).1.findSome?
        Outcome.failure? = some (name, error) := by
      rw [← List.head?_filterMap]
      exact congrArg List.head? failures
    obtain ⟨before, source, rest, split, named, noFailure, failed, ended⟩ :=
      run_abort_of_failure settings tree first
    refine ⟨before, source, rest, split, named, _, _, ofSources_proceed settings tree _,
      ?_, ?_, ?_⟩
    · have quiet : (run (settings.withPolicy .proceed) tree before).1.filterMap
          Outcome.failure? = [] := by
        rw [← List.head?_eq_none_iff, List.head?_filterMap]
        exact noFailure
      simp only [Report.ofOutcomes, run_proceed_append, run_proceed_cons, List.filterMap_append,
        quiet, List.nil_append, List.filterMap_cons, failed]
      rfl
    · have whole : sources = (before ++ [source]) ++ rest := by rw [split, List.append_cons]
      rw [whole, run_proceed_append settings tree (before ++ [source]) rest]
    · have last : (run (settings.withPolicy .proceed) tree (before ++ [source])).1.findSome?
          Outcome.failure? = some (name, error) := by
        rw [run_proceed_append, run_proceed_cons, List.findSome?_append, noFailure,
          Option.none_or, List.findSome?_cons, failed]
      show (conclude _ _, _) = _
      rw [ended, conclude_of_failure rfl last]

/-- Runs over the migrations directory, which are over before they begin if it
is not a directory. -/
theorem ofMigrations_withPolicy (settings : Settings) (policy : FailurePolicy)
    (tree : FileTree) :
    ofMigrations (settings.withPolicy policy) tree =
      match migrationSources settings tree with
      | .ok sources => ofSources (settings.withPolicy policy) tree sources
      | .error error => (.error error, tree) :=
  rfl

theorem migrationSources_of_isDirectory {settings : Settings} {tree : FileTree}
    (found : tree.isDirectory settings.migrationsDirectory = true) :
    ∃ sources, migrationSources settings tree = .ok sources := by
  unfold FileTree.isDirectory at found
  split at found
  next location there => exact ⟨_, by rw [migrationSources, FileTree.migrations, there]; rfl⟩
  next => cases found

theorem migrationSources_of_not_isDirectory {settings : Settings} {tree : FileTree}
    (missing : tree.isDirectory settings.migrationsDirectory = false) :
    migrationSources settings tree =
      .error (.migrationsDirectoryNotFound settings.migrationsDirectory) := by
  unfold FileTree.isDirectory at missing
  have other : ∀ location,
      tree.find settings.migrationsDirectory ≠ .ok (.existing location .directory) := by
    intro location there
    rw [there] at missing
    cases missing
  rw [migrationSources, FileTree.migrations]
  split
  next location there => exact absurd there (other location)
  next => rfl

theorem ofMigrations_of_not_isDirectory {settings : Settings} {tree : FileTree}
    (missing : tree.isDirectory settings.migrationsDirectory = false) (policy : FailurePolicy) :
    ofMigrations (settings.withPolicy policy) tree =
      (.error (.migrationsDirectoryNotFound settings.migrationsDirectory), tree) := by
  rw [ofMigrations_withPolicy, migrationSources_of_not_isDirectory missing]

theorem abortFollows_ofMigrations {settings : Settings} {tree : FileTree}
    {sources : List Source} (located : migrationSources settings tree = .ok sources) :
    AbortFollows settings tree sources fun given => ofMigrations given tree := by
  have sameSources : ∀ policy, ofMigrations (settings.withPolicy policy) tree =
      ofSources (settings.withPolicy policy) tree sources := by
    intro policy
    rw [ofMigrations_withPolicy, located]
  simp only [AbortFollows, sameSources]
  exact abortFollows_ofSources settings tree sources

end Generation

/-! ## The command -/

namespace Generate

/-- The command fails with the run, or for a failure that the report lists. -/
theorem failure_finish (colours quiet : Bool) (events : List Event)
    (result : Except Error Report × FileTree) :
    (finish colours quiet events result).failure.isSome = true ↔
      ∀ report, result.1 = .ok report → report.failures ≠ [] := by
  obtain ⟨answer, tree⟩ := result
  cases answer with
  | error error => simp [finish, Execution.failed]
  | ok report => cases failures : report.failures <;> simp [finish, conclude, Report.isSuccess, failures]

theorem failure_finish_of_abortFollows {settings : Settings} {tree : FileTree}
    {sources : List Source} {generate : Settings → Except Error Report × FileTree}
    (follows : Generation.AbortFollows settings tree sources generate) (colours quiet : Bool)
    (events otherEvents : List Event) :
    (finish colours quiet events (generate (settings.withPolicy .proceed))).failure.isSome = true ↔
      (finish colours quiet otherEvents (generate (settings.withPolicy .abort))).failure.isSome =
        true := by
  obtain ⟨report, last, proceeded, ofNone, ofFirst⟩ := follows
  rw [failure_finish, failure_finish, proceeded]
  cases failures : report.failures with
  | nil =>
      rw [ofNone failures]
  | cons first others =>
      obtain ⟨name, error⟩ := first
      obtain ⟨_, _, _, _, _, _, reached, _, _, _, ended⟩ := ofFirst name error others failures
      rw [ended]
      simp [failures]

/-- The switch decides the policy unless the settings already say to go on. -/
theorem override_continueOnError (settings : Settings) (overrides : Overrides) (switch : Bool) :
    settings.override { overrides with continueOnError := switch } =
      (settings.override overrides).map fun given =>
        given.withPolicy (if switch then .proceed else settings.onFailure) := by
  show ((settings.overriddenBy overrides).validate.map fun _ => _) =
    Except.map _ ((settings.overriddenBy overrides).validate.map fun _ => _)
  cases (settings.overriddenBy overrides).validate <;> rfl

/-- The command under settings that differ in the policy alone. -/
theorem failure_execute_continueOnError (colours quiet : Bool) (tree : FileTree)
    (settings : Settings) (overrides : Overrides) :
    (execute colours quiet tree settings
        { overrides with continueOnError := true }).failure.isSome = true ↔
      (execute colours quiet tree settings
        { overrides with continueOnError := false }).failure.isSome = true := by
  simp only [execute, override_continueOnError]
  cases settings.override overrides with
  | error error => exact Iff.rfl
  | ok given =>
      cases policy : settings.onFailure with
      | proceed => exact Iff.rfl
      | abort =>
          cases overrides.schema with
          | none =>
              simp only [Except.map, Bool.false_eq_true, if_true, if_false]
              cases found : tree.isDirectory given.migrationsDirectory with
              | false =>
                  simp only [Generation.ofMigrations_of_not_isDirectory found, failure_finish]
              | true =>
                  obtain ⟨sources, located⟩ :=
                    Generation.migrationSources_of_isDirectory found
                  exact failure_finish_of_abortFollows
                    (Generation.abortFollows_ofMigrations located) colours quiet _ _
          | some path =>
              simp only [Except.map, Bool.false_eq_true, if_true, if_false]
              cases Schema.load tree path with
              | error error => exact Iff.rfl
              | ok schema =>
                  exact failure_finish_of_abortFollows
                    (Generation.abortFollows_ofSources given tree
                      (Generation.schemaSources schema)) colours quiet _ _

end Generate

/-! ## Both policies -/

namespace Generation

/-- Settings that differ in the policy alone, from the same tree.  Without a
migrations directory both runs end in the same error and leave the tree as it
is.  Otherwise, and over any schema document, the run that ends at the first
failure follows the one that goes on.  So the command fails with the switch to
go on exactly when it fails without it. -/
theorem abort_follows_proceed (settings : Settings) (tree : FileTree) :
    (tree.isDirectory settings.migrationsDirectory = false → ∀ policy,
      ofMigrations (settings.withPolicy policy) tree =
        (.error (.migrationsDirectoryNotFound settings.migrationsDirectory), tree)) ∧
    (tree.isDirectory settings.migrationsDirectory = true →
      ∃ sources, migrationSources settings tree = .ok sources ∧
        AbortFollows settings tree sources fun given => ofMigrations given tree) ∧
    (∀ schema, AbortFollows settings tree (schemaSources schema) fun given =>
      ofSchema given schema tree) ∧
    ∀ (colours quiet : Bool) (overrides : Overrides),
      (Generate.execute colours quiet tree settings
          { overrides with continueOnError := true }).failure.isSome = true ↔
        (Generate.execute colours quiet tree settings
          { overrides with continueOnError := false }).failure.isSome = true := by
  refine ⟨ofMigrations_of_not_isDirectory, ?_, ?_, ?_⟩
  · intro found
    obtain ⟨sources, located⟩ := migrationSources_of_isDirectory found
    exact ⟨sources, located, abortFollows_ofMigrations located⟩
  · intro schema
    exact abortFollows_ofSources settings tree (schemaSources schema)
  · intro colours quiet overrides
    exact Generate.failure_execute_continueOnError colours quiet tree settings overrides

end Generation

end FormRules
