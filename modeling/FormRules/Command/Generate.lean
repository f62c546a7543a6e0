import FormRules.Command.Execution
import FormRules.Generation.Events
import FormRules.Schema.File
import FormRules.Settings.Overrides
import FormRules.Terminal

/-!
Contract: the command that generates request files.

Owns: the sources it runs over, the report it prints, and when it fails.

Does not own: the run.
-/

namespace FormRules.Generate

open FormRules.Terminal

def line (text : String) : String := text ++ "\n"

/-- A file of the report, on a line of its own. -/
def fileLine (colours : Bool) (report : Report) (file : GeneratedFile) : String :=
  let label :=
    if report.dryRun then paint colours [.cyan] "• Would write:"
    else paint colours [.green] "✓ Created:"
  line ("  " ++ label ++ " " ++ Path.join report.outputDirectory file.path ++ " (" ++
    paint colours [.dimmed] file.table ++ ")")

def failureLine (colours : Bool) (failure : String × Error) : String :=
  line ("  " ++ paint colours [.red] "✗ Failed:" ++ " " ++ failure.1 ++ ": " ++ failure.2.message)

/-- The files, the failures, and the summary. -/
def reportText (colours : Bool) (report : Report) : String :=
  String.join (report.files.map (fileLine colours report)) ++
  String.join (report.failures.map (failureLine colours)) ++
  line "" ++ report.summary.text

/-- The last line of a run without failures. -/
def successLine (colours : Bool) (report : Report) : String :=
  line
    (if report.dryRun then paint colours [.yellow] "Dry run complete, no files were written."
    else paint colours [.bold, .green] "Request validation files generated successfully!")

/-- What is printed for a report, and the failure if a source has failed. -/
def conclude (colours quiet : Bool) (report : Report) : String × Option Failure :=
  let shown := if quiet then "" else reportText colours report
  if report.isSuccess then
    (shown ++ if quiet then "" else successLine colours report, none)
  else
    (shown, some { message := Text.decimal report.failures.length ++
      " migration(s) could not be processed" })

/-- The end of the command after a run. -/
def finish (colours quiet : Bool) (events : List Event) :
    Except Error Report × FileTree → Execution
  | (.error error, tree) => .failed tree (.ofError error) events
  | (.ok report, tree) =>
      let (output, failure) := conclude colours quiet report
      { output, failure, tree, events }

/-- Generate from the migrations, or from a schema document if one is given. -/
def execute (colours quiet : Bool) (tree : FileTree) (settings : Settings)
    (overrides : Overrides) : Execution :=
  match settings.override overrides with
  | .error error => .failed tree (.ofError error) []
  | .ok settings =>
      match overrides.schema with
      | none =>
          finish colours quiet (Generation.migrationEvents settings tree)
            (Generation.ofMigrations settings tree)
      | some path =>
          match Schema.load tree path with
          | .error error => .failed tree (.ofError error) []
          | .ok schema =>
              finish colours quiet (Generation.schemaEvents settings schema tree)
                (Generation.ofSchema settings schema tree)

end FormRules.Generate
