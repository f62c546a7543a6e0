import FormRules.Column
import FormRules.Json.Record

/-!
Contract: columns as records of a JSON document.

Owns: the fields of a column and of a foreign key, with their defaults.

Does not own: tables, where columns of one name merge.
-/

namespace FormRules

open FormRules.Json (fields? required withDefault strict)

def ForeignKey.ofJson? (value : Json) : Option ForeignKey := do
  let fields ← fields? strict ["table", "column"] value
  return {
    table := ← required fields "table" Json.string?
    column := ← withDefault fields "column" none (Json.nullable Json.string?) }

namespace Column

def ofJson? (value : Json) : Option Column := do
  let fields ← fields? strict ["name", "type", "length", "nullable", "unique", "foreign"] value
  return {
    name := ← required fields "name" Json.string?
    type := ColumnType.ofMethod (← required fields "type" Json.string?)
    length := ← withDefault fields "length" none (Json.nullable Json.word32?)
    nullable := ← withDefault fields "nullable" false Json.bool?
    unique := ← withDefault fields "unique" false Json.bool?
    foreign := ← withDefault fields "foreign" none (Json.nullable ForeignKey.ofJson?) }

end Column

/-- What is written for a value that may be missing. -/
def Json.ofOption {α : Type} (write : α → Json) : Option α → Json
  | some value => write value
  | none => .null

def ForeignKey.toJson (key : ForeignKey) : Json :=
  .object [("table", .string key.table), ("column", .ofOption .string key.column)]

def Column.toJson (column : Column) : Json :=
  .object
    [("name", .string column.name),
     ("type", .string column.type.name),
     ("length", .ofOption (fun length => .number (Text.decimal length.toNat)) column.length),
     ("nullable", .bool column.nullable),
     ("unique", .bool column.unique),
     ("foreign", .ofOption ForeignKey.toJson column.foreign)]

end FormRules
