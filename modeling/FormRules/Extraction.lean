import FormRules.Statement.Parse
import FormRules.Table
import FormRules.Token.Scan

/-!
Contract: the table that a migration creates.

Owns:
- the effect of one statement on the table built so far: a column statement
  defines or redefines, a constraint statement annotates;
- the outcome of reading one migration.

Does not own: the rules derived from the table.
-/

namespace FormRules

open FormRules.Text

/-- The column as a constraint statement on it leaves it: made unique, or
given the foreign key it lacks; nothing if the statement has no such effect. -/
def Statement.annotated? (statement : Statement) (column : Column) : Option Column :=
  if statement.call.isNamed "unique" then some { column with unique := true }
  else if statement.call.isNamed "foreign" && column.foreign.isNone then
    match statement.modifierText? "on", statement.modifierText? "references" with
    | some table, some target => some { column with foreign := some ⟨table, some target⟩ }
    | _, _ => none
  else none

namespace Table

/-- Apply a constraint statement to the column it names. -/
def annotate (table : Table) (statement : Statement) : Table :=
  match (statement.target?.bind table.column?).bind statement.annotated? with
  | some column => table.insert column
  | none => table

/-- The effect of one statement. -/
def apply (skip : SkipLists) (table : Table) (statement : Statement) : Table :=
  if statement.isConstraint then table.annotate statement
  else
    match statement.column? with
    | some column => if skip.skipsColumn column.name then table else table.insert column
    | none => table

/-- The table that statements define, in their order. -/
def ofStatements (skip : SkipLists) (name : String) (statements : List Statement) : Table :=
  statements.foldl (apply skip) (empty name)

end Table

/-- What the reading of one source comes to. -/
inductive Extraction where
  | table (table : Table)
  | noCreateStatement
  | skippedTable (name : String)
deriving DecidableEq

namespace Extraction

/-- The table of the first create construct, unless it is skipped; every
blueprint statement of the source counts. -/
def ofTokens (skip : SkipLists) (tokens : List Token) : Extraction :=
  match createdTable? tokens with
  | none => .noCreateStatement
  | some name =>
      if skip.skipsTable name then .skippedTable name
      else .table (Table.ofStatements skip name (statements tokens))

def ofSource (skip : SkipLists) (source : String) : Extraction :=
  ofTokens skip (Token.tokenize source)

/-- A table that is already described: skipped, or taken without its skipped
columns. -/
def ofTable (skip : SkipLists) (table : Table) : Extraction :=
  if skip.skipsTable table.name then .skippedTable table.name
  else .table (table.without skip)

end Extraction

end FormRules
