import FormRules.Settings

/-!
Contract: settings given for one run, which win over those of a file.

Owns: the overrides and their effect.

Does not own: the flags that overrides are written as.
-/

namespace FormRules

structure Overrides where
  migrations : Option String := none
  output : Option String := none
  /-- The schema document to read instead of migrations. -/
  schema : Option String := none
  format : Option Format := none
  rootNamespace : Option String := none
  extension : Option String := none
  skipTables : List String := []
  skipColumns : List String := []
  keepUnmapped : Bool := false
  continueOnError : Bool := false
  noAtomic : Bool := false
  dryRun : Bool := false
deriving DecidableEq, Repr

namespace Settings

/-- The settings with the overrides in force: single values replace, names to
skip are added, and a switch that is off changes nothing, except that it says
whether the run is dry. -/
def overriddenBy (settings : Settings) (overrides : Overrides) : Settings where
  migrationsDirectory := overrides.migrations.getD settings.migrationsDirectory
  outputDirectory := overrides.output.getD settings.outputDirectory
  extension := (overrides.extension.map (Text.trimStart '.')).getD settings.extension
  format := overrides.format.getD settings.format
  rootNamespace := (overrides.rootNamespace.map (Text.trimEnds '\\')).getD settings.rootNamespace
  skip :=
    { tables := overrides.skipTables.foldl (fun names name => insertName name names)
        settings.skip.tables
      columns := overrides.skipColumns.foldl (fun names name => insertName name names)
        settings.skip.columns }
  dropUnmapped := settings.dropUnmapped && !overrides.keepUnmapped
  atomicWrites := settings.atomicWrites && !overrides.noAtomic
  onFailure := if overrides.continueOnError then .proceed else settings.onFailure
  dryRun := overrides.dryRun

/-- The overridden settings, if they are valid. -/
def override (settings : Settings) (overrides : Overrides) : Except Error Settings :=
  let result := settings.overriddenBy overrides
  result.validate.map fun _ => result

end Settings

end FormRules
