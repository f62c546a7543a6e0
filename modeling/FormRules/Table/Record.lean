import FormRules.Column.Record
import FormRules.Table

/-!
Contract: tables as records of a JSON document.

Owns: the fields of a table; columns of one name merge as they do in a table
that is built by insertion.

Does not own: the document the tables stand in.
-/

namespace FormRules.Table

open FormRules.Json (fields? required withDefault listOf strict)

def ofJson? (value : Json) : Option Table := do
  let fields ← fields? strict ["name", "columns"] value
  let name ← required fields "name" Json.string?
  let columns ← withDefault fields "columns" [] (listOf Column.ofJson?)
  return ofColumns name columns

def toJson (table : Table) : Json :=
  .object [("name", .string table.name), ("columns", .array (table.columns.map Column.toJson))]

end FormRules.Table
