import FormRules.Extraction
import FormRules.Log
import FormRules.Text.Quoted

/-!
Contract: what the log says about the reading of a migration.

Owns: the events of a column statement: skipped, extracted, or extracted in
place of an earlier definition.

Does not own: the table that is read.
-/

namespace FormRules

namespace Table

/-- The events of one statement that is applied to a table. -/
def applyEvents (skip : SkipLists) (table : Table) (statement : Statement) : List Event :=
  if statement.isConstraint then []
  else
    match statement.column? with
    | none => []
    | some column =>
        let name := ("table", Text.quoted table.name)
        if skip.skipsColumn column.name then
          [⟨.migrations, .debug, "skipping column", [name, ("column", column.name)]⟩]
        else
          ⟨.migrations, .debug, "column extracted",
            [name, ("column", column.name), ("column_type", column.type.name),
             ("line", Text.decimal statement.call.line)]⟩ ::
          if (table.column? column.name).isSome then
            [⟨.migrations, .debug, "column redefined, later definition wins", [name]⟩]
          else []

/-- The events of statements that are applied one after the other. -/
def eventsOfStatements (skip : SkipLists) (table : Table) : List Statement → List Event
  | [] => []
  | statement :: rest =>
      table.applyEvents skip statement ++ (table.apply skip statement).eventsOfStatements skip rest

end Table

namespace Extraction

/-- The events of reading one migration; a skipped table is not read. -/
def eventsOfTokens (skip : SkipLists) (tokens : List Token) : List Event :=
  match createdTable? tokens with
  | none => []
  | some name =>
      if skip.skipsTable name then []
      else Table.eventsOfStatements skip (.empty name) (statements tokens)

def eventsOfSource (skip : SkipLists) (source : String) : List Event :=
  eventsOfTokens skip (Token.tokenize source)

end Extraction

end FormRules
