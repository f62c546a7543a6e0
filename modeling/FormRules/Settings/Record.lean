import FormRules.Json.Record
import FormRules.Settings

/-!
Contract: settings as records of a document.

Owns: the fields of settings and of skip lists, in the order of their array
form, each with its default.

Does not own: the language of the document, of which only the dialect matters
here.
-/

namespace FormRules

open FormRules.Json (Dialect fields? withDefault listOf word?)

/-- Sets of names are written as arrays, in any order. -/
def nameSet? (value : Json) : Option (List String) :=
  (listOf Json.string? value).map nameSet

def SkipLists.ofJson? (dialect : Dialect) (value : Json) : Option SkipLists := do
  let fields ← fields? dialect ["tables", "columns"] value
  return {
    tables := ← withDefault fields "tables" defaultSkippedTables nameSet?
    columns := ← withDefault fields "columns" defaultSkippedColumns nameSet? }

def SkipLists.toJson (skip : SkipLists) : Json :=
  .object
    [("tables", .array (skip.tables.map .string)), ("columns", .array (skip.columns.map .string))]

namespace Settings

def fieldNames : List String :=
  ["migrations_dir", "output_dir", "extension", "format", "namespace", "skip", "drop_unmapped",
   "atomic_writes", "on_error"]

/-- The settings that a document gives.  Whether a run is dry is not among
them. -/
def ofJson? (dialect : Dialect) (value : Json) : Option Settings := do
  let fields ← fields? dialect fieldNames value
  let default : Settings := {}
  return {
    migrationsDirectory :=
      ← withDefault fields "migrations_dir" default.migrationsDirectory Json.string?
    outputDirectory := ← withDefault fields "output_dir" default.outputDirectory Json.string?
    extension := ← withDefault fields "extension" default.extension Json.string?
    format := ← withDefault fields "format" default.format (word? dialect Format.named)
    rootNamespace := ← withDefault fields "namespace" default.rootNamespace Json.string?
    skip := ← withDefault fields "skip" default.skip (SkipLists.ofJson? dialect)
    dropUnmapped := ← withDefault fields "drop_unmapped" default.dropUnmapped Json.bool?
    atomicWrites := ← withDefault fields "atomic_writes" default.atomicWrites Json.bool?
    onFailure := ← withDefault fields "on_error" default.onFailure
      (word? dialect FailurePolicy.named) }

/-- The settings as a document gives them. -/
def toJson (settings : Settings) : Json :=
  .object
    [("migrations_dir", .string settings.migrationsDirectory),
     ("output_dir", .string settings.outputDirectory),
     ("extension", .string settings.extension),
     ("format", .string settings.format.name),
     ("namespace", .string settings.rootNamespace),
     ("skip", settings.skip.toJson),
     ("drop_unmapped", .bool settings.dropUnmapped),
     ("atomic_writes", .bool settings.atomicWrites),
     ("on_error", .string settings.onFailure.name)]

end Settings

end FormRules
