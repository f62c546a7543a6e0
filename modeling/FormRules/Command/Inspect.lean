import FormRules.Command.Execution
import FormRules.Extraction.Events
import FormRules.FileTree.Walk
import FormRules.Json.Print
import FormRules.Request.Events
import FormRules.Summary
import FormRules.Terminal

/-!
Contract: the command that shows the table of one migration.

Owns: the text for the table and its rules, and the form in JSON.

Does not own: how the migration is read.
-/

namespace FormRules.Inspect

open FormRules.Terminal

/-- The attributes of a column that are shown after its type. -/
def attributes (column : Column) : List String :=
  (column.effectiveLength.map fun length => "length=" ++ Text.decimal length.toNat).toList ++
  (if column.nullable then ["nullable"] else []) ++
  (if column.unique then ["unique"] else []) ++
  (column.foreign.map fun key =>
    match key.column with
    | some target => "foreign=" ++ key.table ++ "." ++ target
    | none => "foreign=" ++ key.table).toList

def columnLine (colours : Bool) (column : Column) : String :=
  let type :=
    if column.type.isUnknown then paint colours [.yellow] column.type.name else column.type.name
  "  " ++ Text.padEnd 24 column.name ++ " " ++ type ++ " " ++
    paint colours [.dimmed] (" ".intercalate (attributes column)) ++ "\n"

def tableText (colours : Bool) (table : Table) : String :=
  paint colours [.bold, .cyan] "Table" ++ " " ++ paint colours [.bold] table.name ++ "\n" ++
    String.join (table.columns.map (columnLine colours))

def ruleLine (entry : String × List Rule) : String :=
  "  " ++ entry.1 ++ " => " ++ "|".intercalate (entry.2.map Rule.text) ++ "\n"

def rulesText (colours : Bool) (set : RuleSet) : String :=
  paint colours [.bold, .cyan] "Rules" ++ " " ++
    paint colours [.dimmed] ("(" ++ Naming.requestName set.table ++ ")") ++ "\n" ++
    String.join (set.entries.map ruleLine)

/-- What is shown for a table. -/
def shown (colours asJson : Bool) (settings : Settings) (table : Table) : String :=
  let set := RuleSet.ofTable table settings.dropUnmapped
  if asJson then set.toJson.pretty ++ "\n"
  else tableText colours table ++ "\n" ++ rulesText colours set

def output (colours asJson : Bool) (settings : Settings) : Extraction → String
  | .table table => shown colours asJson settings table
  | .noCreateStatement => paint colours [.yellow] "No create-table statement found." ++ "\n"
  | .skippedTable name => "Table " ++ paint colours [.yellow] name ++ " is skip-listed.\n"

/-- What the log says about the columns of a table. -/
def events (settings : Settings) : Extraction → List Event
  | .table table => Request.droppedEvents settings table
  | _ => []

def execute (colours asJson : Bool) (tree : FileTree) (settings : Settings) (path : String) :
    Execution :=
  match tree.readText path with
  | .error fault =>
      .failed tree { message := "Failed to read migration '" ++ path ++ "'",
                     causes := [fault.message] } []
  | .ok text =>
      let extraction := Extraction.ofSource settings.skip text
      { output := output colours asJson settings extraction
        tree
        events := Extraction.eventsOfSource settings.skip text ++ events settings extraction }

end FormRules.Inspect
