import FormRules.Request.File
import FormRules.Summary

/-!
Contract: what a run has done with each of its sources.

Owns:
- the outcome of one source;
- the report, which lists outcomes by kind in the order of the sources;
- the summary of a report.

Does not own: how an outcome comes about.
-/

namespace FormRules

/-- Why no file is made for a source. -/
inductive SkipReason where
  | noCreateStatement
  | skippedTable (name : String)
deriving DecidableEq, Repr

namespace SkipReason

def text : SkipReason → String
  | .noCreateStatement => "no create-table statement"
  | .skippedTable name => "table '" ++ name ++ "' is skip-listed"

def isTable : SkipReason → Bool
  | .skippedTable _ => true
  | .noCreateStatement => false

end SkipReason

/-- What one source comes to. -/
inductive Outcome where
  | generated (file : GeneratedFile)
  | skipped (source : String) (reason : SkipReason)
  | failed (source : String) (error : Error)
deriving DecidableEq, Repr

namespace Outcome

def file? : Outcome → Option GeneratedFile
  | .generated file => some file
  | _ => none

def skip? : Outcome → Option (String × SkipReason)
  | .skipped source reason => some (source, reason)
  | _ => none

def failure? : Outcome → Option (String × Error)
  | .failed source error => some (source, error)
  | _ => none

end Outcome

structure Report where
  outputDirectory : String
  format : Format
  dryRun : Bool
  files : List GeneratedFile := []
  /-- The paths of the files written; none in a dry run. -/
  written : List String := []
  skipped : List (String × SkipReason) := []
  failures : List (String × Error) := []
deriving DecidableEq, Repr

namespace Report

/-- The report on a run with the given outcomes. -/
def ofOutcomes (settings : Settings) (outcomes : List Outcome) : Report :=
  let files := outcomes.filterMap Outcome.file?
  { outputDirectory := settings.outputDirectory
    format := settings.format
    dryRun := settings.dryRun
    files
    written :=
      if settings.dryRun then []
      else files.map fun file => Path.join settings.outputDirectory file.path
    skipped := outcomes.filterMap Outcome.skip?
    failures := outcomes.filterMap Outcome.failure? }

def isSuccess (report : Report) : Bool :=
  report.failures.isEmpty

/-- The first file made for a table. -/
def fileFor? (report : Report) (table : String) : Option GeneratedFile :=
  report.files.find? fun file => file.table == table

/-- The bytes of the contents of some files. -/
def totalBytes : List GeneratedFile → Nat
  | [] => 0
  | file :: rest => file.content.utf8ByteSize + totalBytes rest

def summary (report : Report) : Summary where
  outputDirectory := report.outputDirectory
  format := report.format
  files := report.files.length
  withoutCreate := (report.skipped.filter fun skip => !skip.2.isTable).length
  skippedTables := (report.skipped.filter fun skip => skip.2.isTable).length
  failures := report.failures.length
  bytes := totalBytes report.files
  dryRun := report.dryRun

end Report

end FormRules
