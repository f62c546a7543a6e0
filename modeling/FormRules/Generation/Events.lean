import FormRules.Extraction.Events
import FormRules.Generation
import FormRules.Request.Events

/-!
Contract: what the log says about a run.

Owns: the events of reading, planning and writing each source, and those of
the end of the run.

Does not own: the run itself.
-/

namespace FormRules

namespace Source

/-- The events of a source from its text or description to the table. -/
def readEvents (settings : Settings) (tree : FileTree) : Source → List Event
  | .migration path =>
      match tree.readText path with
      | .error _ => []
      | .ok text =>
          Extraction.eventsOfSource settings.skip text ++
          match Extraction.ofSource settings.skip text with
          | .table table =>
              [⟨.generation, .debug, "table extracted",
                [("path", path), ("table", table.name),
                 ("columns", Text.decimal table.columns.length)]⟩]
          | _ => []
  | .described _ => []

/-- The event of a source that is passed over. -/
def skipEvent (source : Source) (reason : SkipReason) : Event :=
  match source with
  | .migration path =>
      ⟨.generation, .debug, "skipping migration", [("path", path), ("reason", reason.text)]⟩
  | .described table => ⟨.generation, .debug, "skipping table", [("table", table.name)]⟩

/-- The events of a file that is planned, and written if the run is not dry.
`produced` holds the paths of the files planned before it. -/
def fileEvents (settings : Settings) (produced : List String) (file : GeneratedFile)
    (outcome : Outcome) : List Event :=
  let table := ("table", file.table)
  (if produced.contains file.path then
    [⟨.generation, .warn, "output path produced by an earlier table, overwriting",
      [("path", file.path), table]⟩]
  else []) ++
  if settings.dryRun then
    [⟨.generation, .info, "dry run, not writing", [("path", file.path), table]⟩]
  else
    match outcome with
    | .generated _ =>
        [⟨.generation, .info, "request written",
          [("path", Path.join settings.outputDirectory file.path), table]⟩]
    | _ => []

/-- The event of a failure that does not end the run. -/
def failureEvents (settings : Settings) : Outcome → List Event
  | .failed source error =>
      if settings.onFailure = .proceed then
        [⟨.generation, .warn, "failed to process source, continuing",
          [("source", source), ("error", error.message)]⟩]
      else []
  | _ => []

/-- The events of a table that has been read. -/
def tableEvents (settings : Settings) (produced : List String) (table : Table)
    (outcome : Outcome) : List Event :=
  Request.events settings table ++
    fileEvents settings produced (GeneratedFile.ofTable settings table) outcome

/-- All events of one source. -/
def events (settings : Settings) (produced : List String) (tree : FileTree) (source : Source)
    (outcome : Outcome) : List Event :=
  source.readEvents settings tree ++
  (match source.extraction settings tree with
    | .error _ => []
    | .ok (.table table) => tableEvents settings produced table outcome
    | .ok .noCreateStatement => [source.skipEvent .noCreateStatement]
    | .ok (.skippedTable name) => [source.skipEvent (.skippedTable name)]) ++
  failureEvents settings outcome

end Source

namespace Generation

/-- The events of a run after files with the given paths have been planned. -/
def runEvents (settings : Settings) (produced : List String) (tree : FileTree) :
    List Source → List Event
  | [] => []
  | source :: rest =>
      let (outcome, after) := source.process settings tree
      let events := source.events settings produced tree outcome
      if endsRun settings outcome then events
      else
        let planned := (source.plan settings tree).file?.map GeneratedFile.path
        events ++ runEvents settings (planned.toList ++ produced) after rest

/-- The event of a finished run. -/
def endEvents (settings : Settings) (outcomes : List Outcome) : List Event :=
  match conclude settings outcomes with
  | .error _ => []
  | .ok report =>
      [⟨.generation, .info, "code generation complete",
        [("files", Text.decimal report.files.length),
         ("skipped", Text.decimal report.skipped.length),
         ("failures", Text.decimal report.failures.length),
         ("dry_run", if report.dryRun then "true" else "false")]⟩]

def sourceEvents (settings : Settings) (tree : FileTree) (sources : List Source) : List Event :=
  runEvents settings [] tree sources ++ endEvents settings (run settings tree sources).1

def migrationEvents (settings : Settings) (tree : FileTree) : List Event :=
  match migrationSources settings tree with
  | .ok sources => sourceEvents settings tree sources
  | .error _ => []

def schemaEvents (settings : Settings) (schema : Schema) (tree : FileTree) : List Event :=
  sourceEvents settings tree (schemaSources schema)

/-- The events of planning one migration text. -/
def planEvents (settings : Settings) (path text : String) : List Event :=
  Extraction.eventsOfSource settings.skip text ++
  match Extraction.ofSource settings.skip text with
  | .table table => Request.events settings table
  | .noCreateStatement => [(Source.migration path).skipEvent .noCreateStatement]
  | .skippedTable name => [(Source.migration path).skipEvent (.skippedTable name)]

end Generation

end FormRules
