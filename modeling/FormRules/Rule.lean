import FormRules.Column
import FormRules.Text.Decimal

/-!
Contract: validation rules, and the rules that a column calls for.

Owns:
- the kinds of rule and the text each is written as;
- the rules of a column type and of the other attributes of a column.

Does not own: the order of the columns, or the document the rules are put in.
-/

namespace FormRules

inductive Rule where
  | string
  | integer
  | numeric
  | boolean
  | date
  | max (length : UInt32)
  | required
  | uniqueIn (table column : String)
  | existsIn (table column : String)
deriving DecidableEq, Repr

def Rule.text : Rule → String
  | .string => "string"
  | .integer => "integer"
  | .numeric => "numeric"
  | .boolean => "boolean"
  | .date => "date"
  | .max length => "max:" ++ Text.decimal length.toNat
  | .required => "required"
  | .uniqueIn table column => "unique:" ++ table ++ "," ++ column
  | .existsIn table column => "exists:" ++ table ++ "," ++ column

/-- The rule on values of a type; an unknown type has none. -/
def ColumnType.rule? : ColumnType → Option Rule
  | .string | .text => some .string
  | .integer | .bigInteger | .smallInteger | .tinyInteger => some .integer
  | .decimal | .float => some .numeric
  | .boolean => some .boolean
  | .date | .dateTime | .timestamp => some .date
  | .unknown _ => none

/-- The rule on values of a type, and the bound on their length. -/
def ColumnType.rules (type : ColumnType) (length : Option UInt32) : List Rule :=
  type.rule?.toList ++ if type = .string then (length.map Rule.max).toList else []

namespace Column

/-- The rules that do not depend on the type. -/
def attributeRules (table : String) (column : Column) : List Rule :=
  (if column.nullable then [] else [.required]) ++
  (if column.unique then [.uniqueIn table column.name] else []) ++
  match column.foreign.bind ForeignKey.target? with
  | some (foreignTable, foreignColumn) => [.existsIn foreignTable foreignColumn]
  | none => []

/-- All rules of a column of a table; nothing if there is no rule to state, or
if columns of unknown type are to be dropped and this is one. -/
def rules? (table : String) (dropUnmapped : Bool) (column : Column) : Option (List Rule) :=
  let typeRules := column.type.rules column.length
  let rules := typeRules ++ column.attributeRules table
  if rules.isEmpty || (typeRules.isEmpty && dropUnmapped) then none else some rules

end Column

end FormRules
