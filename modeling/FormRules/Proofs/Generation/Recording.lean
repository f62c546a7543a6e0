import FormRules.Proofs.Generation.Run

/-!
Contract: a run that fills in its report as it goes.

Owns:
- the entries of a report, made one at a time;
- what one source enters, and what becomes of its failure;
- the run over all sources with the report carried along, which is the run that
  is reported on when it is over.

Does not own: what a report says about the sources.

## Why the two agree

A file is entered after it has been written, with the path that the write has
answered, and a source that fails halfway has entered nothing.  Reading the report
off the outcomes puts the same paths down without having seen them, so the
agreement rests on two facts: a write answers the path that it was asked for, and
no entry is made before the last step that can fail.
-/

namespace FormRules

/-! ## Entries -/

namespace Report

variable {settings : Settings}

/-- The report on a run that has not come to any source. -/
def opened (settings : Settings) : Report where
  outputDirectory := settings.outputDirectory
  format := settings.format
  dryRun := settings.dryRun

def addFile (report : Report) (file : GeneratedFile) : Report :=
  { report with files := report.files ++ [file] }

def addWritten (report : Report) (path : String) : Report :=
  { report with written := report.written ++ [path] }

def addSkip (report : Report) (source : String) (reason : SkipReason) : Report :=
  { report with skipped := report.skipped ++ [(source, reason)] }

def addFailure (report : Report) (source : String) (error : Error) : Report :=
  { report with failures := report.failures ++ [(source, error)] }

/-- The report with one more outcome. -/
def enter (settings : Settings) (report : Report) : Outcome → Report
  | .generated file =>
      if settings.dryRun then report.addFile file
      else (report.addWritten (Path.join settings.outputDirectory file.path)).addFile file
  | .skipped source reason => report.addSkip source reason
  | .failed source error => report.addFailure source error

theorem ofOutcomes_nil (settings : Settings) : ofOutcomes settings [] = opened settings := by
  simp [ofOutcomes, opened]

theorem ofOutcomes_concat (done : List Outcome) (outcome : Outcome) :
    ofOutcomes settings (done ++ [outcome]) = (ofOutcomes settings done).enter settings outcome := by
  cases outcome with
  | generated file =>
      by_cases dry : settings.dryRun = true <;>
        simp [ofOutcomes, enter, dry, addFile, addWritten, Outcome.file?, Outcome.skip?,
          Outcome.failure?]
  | skipped source reason =>
      simp [ofOutcomes, enter, addSkip, List.filterMap_cons, Outcome.file?, Outcome.skip?,
        Outcome.failure?]
  | failed source error =>
      simp [ofOutcomes, enter, addFailure, List.filterMap_cons, Outcome.file?, Outcome.skip?,
        Outcome.failure?]

end Report

/-! ## One source -/

/-- Write the file unless the run is dry, and enter it. -/
def GeneratedFile.emit (settings : Settings) (report : Report) (tree : FileTree)
    (file : GeneratedFile) : Except Error Unit × Report × FileTree :=
  if settings.dryRun then (.ok (), report.addFile file, tree)
  else
    match file.write tree settings.outputDirectory settings.atomicWrites with
    | (.ok path, tree) => (.ok (), (report.addWritten path).addFile file, tree)
    | (.error error, tree) => (.error error, report, tree)

theorem GeneratedFile.eq_join_of_write {file : GeneratedFile} {tree after : FileTree}
    {base path : String} {atomic : Bool} (done : file.write tree base atomic = (.ok path, after)) :
    path = Path.join base file.path := by
  simp only [write] at done
  split at done
  next => cases done
  next =>
      split at done
      next => cases done
      next =>
          split at done
          next =>
              cases done
              rfl
          next => cases done

namespace Source

/-- Take a source from its text or description to an entry in the report.  A source
that fails answers its error; its entry is made elsewhere, if at all. -/
def record (settings : Settings) (report : Report) (tree : FileTree) (source : Source) :
    Except Error Unit × Report × FileTree :=
  match source.extraction settings tree with
  | .error error => (.error error, report, tree)
  | .ok (.table found) => (GeneratedFile.ofTable settings found).emit settings report tree
  | .ok .noCreateStatement => (.ok (), report.addSkip source.name .noCreateStatement, tree)
  | .ok (.skippedTable name) => (.ok (), report.addSkip source.name (.skippedTable name), tree)

/-- How recording a source goes along with processing it: the outcome is entered,
unless it is a failure, which leaves the report as it is. -/
inductive Recorded (settings : Settings) (report : Report) (source : Source) :
    Outcome × FileTree → Except Error Unit × Report × FileTree → Prop where
  | entered {outcome : Outcome} {after : FileTree} (noFailure : outcome.failure? = none) :
      Recorded settings report source (outcome, after)
        (.ok (), report.enter settings outcome, after)
  | failed {error : Error} {after : FileTree} :
      Recorded settings report source (.failed source.name error, after)
        (.error error, report, after)

variable (settings : Settings) (report : Report) (tree : FileTree) (source : Source)

theorem recorded_emit (file : GeneratedFile) :
    Recorded settings report source (source.carryOut settings tree (.generated file))
      (file.emit settings report tree) := by
  have entry := @Recorded.entered settings report source (.generated file)
  simp only [carryOut, GeneratedFile.emit]
  cases dry : settings.dryRun with
  | true =>
      simp only [Report.enter, dry, if_true] at entry ⊢
      exact entry rfl
  | false =>
      simp only [Report.enter, dry, Bool.false_eq_true, if_false] at entry ⊢
      cases written : file.write tree settings.outputDirectory settings.atomicWrites with
      | mk result after =>
          cases result with
          | error error => exact .failed
          | ok path =>
              rw [GeneratedFile.eq_join_of_write written]
              exact entry rfl

theorem recorded : Recorded settings report source (source.process settings tree)
    (source.record settings report tree) := by
  rw [process, plan, record]
  cases source.extraction settings tree with
  | error error => exact .failed
  | ok extraction =>
      cases extraction with
      | table found => exact recorded_emit settings report tree source _
      | noCreateStatement => exact .entered rfl
      | skippedTable name => exact .entered rfl

end Source

/-! ## All sources -/

namespace Generation

variable {settings : Settings}

/-- A failure ends the run or is entered. -/
def recordFailure (settings : Settings) (report : Report) (source : String) (error : Error) :
    Except Error Report :=
  match settings.onFailure with
  | .abort => .error error
  | .proceed => .ok (report.addFailure source error)

/-- Record sources in their order. -/
def recordAll (settings : Settings) (report : Report) (tree : FileTree) :
    List Source → Except Error Report × FileTree
  | [] => (.ok report, tree)
  | source :: rest =>
      match source.record settings report tree with
      | (.ok (), report, tree) => recordAll settings report tree rest
      | (.error error, report, tree) =>
          match recordFailure settings report source.name error with
          | .ok report => recordAll settings report tree rest
          | .error error => (.error error, tree)

theorem findSome?_concat_failed {done : List Outcome} (goesOn : GoesOn settings done)
    (aborts : settings.onFailure = .abort) (source : String) (error : Error) :
    (done ++ [Outcome.failed source error]).findSome? Outcome.failure? = some (source, error) := by
  rw [List.findSome?_append, goesOn.findSome?_eq_none aborts]
  rfl

/-- A failure is met in the way that the run over it is concluded. -/
theorem recordFailure_ofOutcomes {done : List Outcome} (goesOn : GoesOn settings done)
    (source : String) (error : Error) :
    recordFailure settings (Report.ofOutcomes settings done) source error =
      conclude settings (done ++ [.failed source error]) := by
  cases policy : settings.onFailure with
  | abort =>
      rw [recordFailure, policy,
        conclude_of_failure policy (findSome?_concat_failed goesOn policy source error)]
  | proceed =>
      rw [recordFailure, conclude, policy, Report.ofOutcomes_concat]
      rfl

/-- A failure that ends the run is what the run comes to. -/
theorem conclude_of_endsRun {done : List Outcome} (goesOn : GoesOn settings done)
    {source : String} {error : Error} (ends : endsRun settings (.failed source error) = true) :
    conclude settings (done ++ [.failed source error]) = .error error := by
  have aborts : settings.onFailure = .abort := by
    rw [endsRun, Bool.and_eq_true, beq_iff_eq] at ends
    exact ends.1
  exact conclude_of_failure aborts (findSome?_concat_failed goesOn aborts source error)

/-- The run that carries its report along, from any point on. -/
theorem recordAll_ofOutcomes {done : List Outcome} (goesOn : GoesOn settings done)
    (tree : FileTree) (sources : List Source) :
    recordAll settings (Report.ofOutcomes settings done) tree sources =
      (conclude settings (done ++ (run settings tree sources).1),
        (run settings tree sources).2) := by
  induction sources generalizing done tree with
  | nil => rw [recordAll, run, List.append_nil, conclude_of_goesOn goesOn]
  | cons source rest inductionHypothesis =>
      -- An outcome that does not end the run joins those that are done.
      have goOn : ∀ outcome, endsRun settings outcome = false →
          GoesOn settings (done ++ [outcome]) := by
        intro outcome quiet
        simpa [GoesOn, or_imp, forall_and] using ⟨goesOn, quiet⟩
      have recorded := source.recorded settings (Report.ofOutcomes settings done) tree
      rw [recordAll, run_cons, remaining]
      generalize source.process settings tree = processed at recorded ⊢
      generalize source.record settings _ tree = entry at recorded ⊢
      cases recorded with
      | @entered outcome after noFailure =>
          have quiet : endsRun settings outcome = false := by simp [endsRun, noFailure]
          simp only [quiet]
          rw [← Report.ofOutcomes_concat, inductionHypothesis (goOn outcome quiet)]
          simp
      | @failed error after =>
          simp only [recordFailure_ofOutcomes goesOn]
          cases ends : endsRun settings (.failed source.name error) with
          | true => simp only [conclude_of_endsRun goesOn ends, if_true, run]
          | false =>
              simp only [conclude_of_goesOn (goOn _ ends), Bool.false_eq_true, if_false]
              rw [inductionHypothesis (goOn _ ends), List.append_assoc]
              rfl

/-- A run comes to the report that it could have filled in as it went, or to the
error that ended it there. -/
theorem ofSources_eq_recordAll (settings : Settings) (tree : FileTree) (sources : List Source) :
    ofSources settings tree sources =
      recordAll settings (Report.opened settings) tree sources := by
  have noneDone : GoesOn settings [] := List.forall_mem_nil _
  rw [← Report.ofOutcomes_nil, recordAll_ofOutcomes noneDone tree sources]
  rfl

end Generation

end FormRules
