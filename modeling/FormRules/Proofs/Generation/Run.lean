import FormRules.Generation

/-!
Contract: the runs of the generator, source by source.

Owns:
- what carrying out a plan leaves of the plan;
- a run as its first source and the run that goes on from there;
- runs that go on to the last source;
- the report on a run over one source.

Does not own: the plans themselves.
-/

namespace FormRules

/-- Whether a source has a file does not depend on what the source is called. -/
theorem Extraction.file?_plan (settings : Settings) (source other : String)
    (extraction : Extraction) :
    (extraction.plan settings source).file? = (extraction.plan settings other).file? := by
  cases extraction <;> rfl

/-- The outcome of a source is the planned one, unless its file was not
written. -/
theorem Source.carryOut_cases (settings : Settings) (tree : FileTree) (source : Source)
    (plan : Outcome) :
    (source.carryOut settings tree plan).1 = plan ∨
      ∃ error, (source.carryOut settings tree plan).1 = .failed source.name error := by
  cases plan with
  | generated file =>
      simp only [carryOut]
      by_cases dry : settings.dryRun = true
      · rw [if_pos dry]
        exact .inl rfl
      · rw [if_neg dry]
        obtain ⟨result, after⟩ := file.write tree settings.outputDirectory settings.atomicWrites
        cases result with
        | ok _ => exact .inl rfl
        | error error => exact .inr ⟨error, rfl⟩
  | skipped => exact .inl rfl
  | failed => exact .inl rfl

theorem Source.carryOut_of_dryRun {settings : Settings} (dry : settings.dryRun = true)
    (tree : FileTree) (source : Source) (plan : Outcome) :
    source.carryOut settings tree plan = (plan, tree) := by
  cases plan with
  | generated file =>
      simp only [carryOut]
      rw [if_pos dry]
  | skipped => rfl
  | failed => rfl

namespace Generation

/-! ## The first source -/

/-- The sources that are left for the run after an outcome. -/
def remaining (settings : Settings) (outcome : Outcome) (rest : List Source) : List Source :=
  if endsRun settings outcome then [] else rest

theorem run_cons (settings : Settings) (tree : FileTree) (source : Source) (rest : List Source) :
    run settings tree (source :: rest) =
      ((source.process settings tree).1 ::
          (run settings (source.process settings tree).2
            (remaining settings (source.process settings tree).1 rest)).1,
        (run settings (source.process settings tree).2
          (remaining settings (source.process settings tree).1 rest)).2) := by
  simp only [run, remaining]
  split <;> rfl

/-- A run is settled by its first source and by the run over what is left. -/
theorem run_induction {settings : Settings} {motive : FileTree → List Source → Prop}
    (nil : ∀ tree, motive tree [])
    (cons : ∀ tree source rest,
      motive (source.process settings tree).2
        (remaining settings (source.process settings tree).1 rest) →
      motive tree (source :: rest))
    (tree : FileTree) (sources : List Source) : motive tree sources := by
  induction sources generalizing tree with
  | nil => exact nil tree
  | cons source rest inductionHypothesis =>
      apply cons
      rw [remaining]
      split
      · exact nil _
      · exact inductionHypothesis _

theorem run_singleton (settings : Settings) (tree : FileTree) (source : Source) :
    run settings tree [source] =
      ([(source.process settings tree).1], (source.process settings tree).2) := by
  simp only [run]
  split
  · rfl
  · rfl

/-! ## Runs that go on -/

/-- No outcome ends the run. -/
def GoesOn (settings : Settings) (outcomes : List Outcome) : Prop :=
  ∀ outcome ∈ outcomes, endsRun settings outcome = false

section GoesOn

variable {settings : Settings} {tree : FileTree} {source : Source}
  {sources before rest : List Source}

theorem goesOn_cons : GoesOn settings (run settings tree (source :: rest)).1 ↔
    endsRun settings (source.process settings tree).1 = false ∧
      GoesOn settings (run settings (source.process settings tree).2 rest).1 := by
  rw [run_cons, GoesOn, List.forall_mem_cons, remaining]
  refine and_congr_right ?_
  intro first
  rw [first]
  rfl

theorem run_cons_of_goesOn (first : endsRun settings (source.process settings tree).1 = false) :
    run settings tree (source :: rest) =
      ((source.process settings tree).1 :: (run settings (source.process settings tree).2 rest).1,
        (run settings (source.process settings tree).2 rest).2) := by
  rw [run_cons, remaining, first]
  rfl

/-- A run that nothing ends goes on with whatever sources there are. -/
theorem run_append (goesOn : GoesOn settings (run settings tree before).1) :
    run settings tree (before ++ rest) =
      ((run settings tree before).1 ++ (run settings (run settings tree before).2 rest).1,
        (run settings (run settings tree before).2 rest).2) := by
  induction before generalizing tree with
  | nil => rfl
  | cons source before inductionHypothesis =>
      obtain ⟨first, others⟩ := goesOn_cons.1 goesOn
      rw [List.cons_append, run_cons_of_goesOn first, run_cons_of_goesOn first,
        inductionHypothesis others]
      rfl

theorem GoesOn.of_append (goesOn : GoesOn settings (run settings tree (before ++ rest)).1) :
    GoesOn settings (run settings tree before).1 := by
  induction before generalizing tree with
  | nil => simp [GoesOn, run]
  | cons source before inductionHypothesis =>
      rw [List.cons_append, goesOn_cons] at goesOn
      exact goesOn_cons.2 ⟨goesOn.1, inductionHypothesis goesOn.2⟩

theorem length_run (goesOn : GoesOn settings (run settings tree sources).1) :
    (run settings tree sources).1.length = sources.length := by
  induction sources generalizing tree with
  | nil => rfl
  | cons source rest inductionHypothesis =>
      obtain ⟨first, others⟩ := goesOn_cons.1 goesOn
      rw [run_cons_of_goesOn first, List.length_cons, inductionHypothesis others, List.length_cons]

/-- A run with a report has gone on to its last source. -/
theorem goesOn_of_conclude {outcomes : List Outcome} {report : Report}
    (concluded : conclude settings outcomes = .ok report) : GoesOn settings outcomes := by
  intro outcome member
  rw [endsRun, Bool.and_eq_false_imp, beq_iff_eq]
  intro aborts
  rw [Option.isSome_eq_false_iff, Option.isNone_iff_eq_none]
  cases first : outcomes.findSome? Outcome.failure? with
  | none => exact List.findSome?_eq_none_iff.1 first outcome member
  | some failure =>
      rw [conclude, aborts, first] at concluded
      cases concluded

/-- Where a failure ends the run, none is among outcomes that go on. -/
theorem GoesOn.failure?_eq_none {outcomes : List Outcome} (goesOn : GoesOn settings outcomes)
    (aborts : settings.onFailure = .abort) {outcome : Outcome} (member : outcome ∈ outcomes) :
    outcome.failure? = none := by
  have quiet := goesOn outcome member
  rw [endsRun, aborts] at quiet
  simpa using quiet

theorem GoesOn.findSome?_eq_none {outcomes : List Outcome} (goesOn : GoesOn settings outcomes)
    (aborts : settings.onFailure = .abort) : outcomes.findSome? Outcome.failure? = none := by
  rw [List.findSome?_eq_none_iff]
  intro outcome member
  exact goesOn.failure?_eq_none aborts member

end GoesOn

/-! ## Reports -/

/-- A run that is not ended by a failure reports its outcomes. -/
theorem eq_ofOutcomes_of_conclude {settings : Settings} {outcomes : List Outcome}
    {report : Report} (concluded : conclude settings outcomes = .ok report) :
    report = Report.ofOutcomes settings outcomes := by
  unfold conclude at concluded
  split at concluded
  · cases concluded
  · exact (Except.ok.inj concluded).symm

theorem conclude_of_no_failure {settings : Settings} {outcomes : List Outcome}
    (noFailure : outcomes.findSome? Outcome.failure? = none) :
    conclude settings outcomes = .ok (Report.ofOutcomes settings outcomes) := by
  unfold conclude
  rw [noFailure]
  split
  next absent => cases absent
  next => rfl

/-- Where failures end the run, the first one is what the run comes to. -/
theorem conclude_of_failure {settings : Settings} (aborts : settings.onFailure = .abort)
    {outcomes : List Outcome} {source : String} {error : Error}
    (failure : outcomes.findSome? Outcome.failure? = some (source, error)) :
    conclude settings outcomes = .error error := by
  rw [conclude, aborts, failure]

theorem conclude_of_goesOn {settings : Settings} {outcomes : List Outcome}
    (goesOn : GoesOn settings outcomes) :
    conclude settings outcomes = .ok (Report.ofOutcomes settings outcomes) := by
  cases policy : settings.onFailure with
  | abort => exact conclude_of_no_failure (goesOn.findSome?_eq_none policy)
  | proceed => rw [conclude, policy]

/-- A result is a report if something can be read off its report. -/
theorem exists_report_of_map {α : Type} {result : Except Error Report × FileTree}
    {read : Report → α} {value : α} (reads : result.1.toOption.map read = some value) :
    ∃ report after, result = (.ok report, after) ∧ read report = value := by
  obtain ⟨answer, after⟩ := result
  cases answer with
  | error error => cases reads
  | ok report => exact ⟨report, after, rfl, Option.some.inj reads⟩

/-- Without failures, a run over one source reports the file that is planned
for it. -/
theorem files_of_singleton {settings : Settings} {tree : FileTree} {source : Source}
    {report : Report} (concluded : (ofSources settings tree [source]).1 = .ok report)
    (noFailure : report.failures = []) :
    report.files = (source.plan settings tree).file?.toList := by
  have outcomes : report = Report.ofOutcomes settings [(source.process settings tree).1] := by
    apply eq_ofOutcomes_of_conclude
    rw [← concluded, ofSources, run_singleton]
  rw [outcomes] at noFailure ⊢
  rcases source.carryOut_cases settings tree (source.plan settings tree) with
    planned | ⟨error, failed⟩
  · rw [Source.process, planned]
    cases file : (source.plan settings tree).file? with
    | none => simp [Report.ofOutcomes, file]
    | some file => simp [Report.ofOutcomes, file]
  · rw [Source.process, failed] at noFailure
    cases noFailure

/-- A dry run over one source that can be planned has no failures. -/
theorem conclude_of_dryRun {settings : Settings} {source : Source} {tree : FileTree}
    (dry : settings.dryRun = true)
    (planned : (source.plan settings tree).failure? = none) :
    (ofSources settings tree [source]).1 =
      .ok (Report.ofOutcomes settings [source.plan settings tree]) := by
  have outcome : (source.process settings tree).1 = source.plan settings tree := by
    rw [Source.process, Source.carryOut_of_dryRun dry]
  rw [ofSources, run_singleton, outcome]
  apply conclude_of_no_failure
  rw [List.findSome?_singleton, planned]

end Generation

end FormRules
