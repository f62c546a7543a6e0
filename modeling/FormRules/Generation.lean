import FormRules.FileTree.Migrations
import FormRules.Generation.Write
import FormRules.Report
import FormRules.Schema

/-!
Contract: a generation run over migrations or over a schema document.

Owns:
- what one source comes to, and its effect on the file tree;
- the run over all sources, which a failure ends if the settings say so;
- the report or the error of the run.

Does not own: what the log says about it.
-/

namespace FormRules

/-- Something that describes one table. -/
inductive Source where
  | migration (path : String)
  | described (table : Table)

namespace Source

def name : Source → String
  | .migration path => path
  | .described table => table.name

/-- What the source says, as far as the file tree lets it be read. -/
def extraction (settings : Settings) (tree : FileTree) : Source → Except Error Extraction
  | .migration path =>
      match tree.readText path with
      | .ok text => .ok (Extraction.ofSource settings.skip text)
      | .error fault => .error (.fileRead path fault.message)
  | .described table => .ok (Extraction.ofTable settings.skip table)

end Source

/-- What a source that has been read comes to before anything is written. -/
def Extraction.plan (settings : Settings) (source : String) : Extraction → Outcome
  | .table found => .generated (GeneratedFile.ofTable settings found)
  | .noCreateStatement => .skipped source .noCreateStatement
  | .skippedTable name => .skipped source (.skippedTable name)

/-- The file that a migration text calls for, if it does. -/
def GeneratedFile.ofSource? (settings : Settings) (text : String) : Option GeneratedFile :=
  ((Extraction.ofSource settings.skip text).plan settings "").file?

namespace Source

/-- The outcome that is planned for a source. -/
def plan (settings : Settings) (tree : FileTree) (source : Source) : Outcome :=
  match source.extraction settings tree with
  | .ok extraction => extraction.plan settings source.name
  | .error error => .failed source.name error

/-- Carry a plan out: in a dry run as it is, else with its file written. -/
def carryOut (settings : Settings) (tree : FileTree) (source : Source) :
    Outcome → Outcome × FileTree
  | .generated file =>
      if settings.dryRun then (.generated file, tree)
      else
        match file.write tree settings.outputDirectory settings.atomicWrites with
        | (.ok _, tree) => (.generated file, tree)
        | (.error error, tree) => (.failed source.name error, tree)
  | outcome => (outcome, tree)

def process (settings : Settings) (tree : FileTree) (source : Source) : Outcome × FileTree :=
  source.carryOut settings tree (source.plan settings tree)

end Source

namespace Generation

/-- The outcome is the last one of the run. -/
def endsRun (settings : Settings) (outcome : Outcome) : Bool :=
  settings.onFailure == .abort && outcome.failure?.isSome

/-- The outcomes of sources in their order, and the file tree after them. -/
def run (settings : Settings) (tree : FileTree) : List Source → List Outcome × FileTree
  | [] => ([], tree)
  | source :: rest =>
      let (outcome, after) := source.process settings tree
      if endsRun settings outcome then ([outcome], after)
      else
        let (outcomes, last) := run settings after rest
        (outcome :: outcomes, last)

/-- The report on a run, or the error that has ended it. -/
def conclude (settings : Settings) (outcomes : List Outcome) : Except Error Report :=
  match settings.onFailure, outcomes.findSome? Outcome.failure? with
  | .abort, some (_, error) => .error error
  | _, _ => .ok (Report.ofOutcomes settings outcomes)

/-- Run over given sources. -/
def ofSources (settings : Settings) (tree : FileTree) (sources : List Source) :
    Except Error Report × FileTree :=
  let (outcomes, after) := run settings tree sources
  (conclude settings outcomes, after)

/-- The sources in the migrations directory. -/
def migrationSources (settings : Settings) (tree : FileTree) : Except Error (List Source) :=
  (tree.migrations settings.migrationsDirectory settings.extension).map fun paths =>
    paths.map .migration

/-- The tables of a schema document as sources. -/
def schemaSources (schema : Schema) : List Source :=
  schema.tables.map .described

/-- Run over the migrations directory. -/
def ofMigrations (settings : Settings) (tree : FileTree) : Except Error Report × FileTree :=
  match migrationSources settings tree with
  | .ok sources => ofSources settings tree sources
  | .error error => (.error error, tree)

/-- Run over the tables of a schema document. -/
def ofSchema (settings : Settings) (schema : Schema) (tree : FileTree) :
    Except Error Report × FileTree :=
  ofSources settings tree (schemaSources schema)

end Generation

end FormRules
