import FormRules.Identifier
import FormRules.Error
import FormRules.Text.Case

/-!
Contract: the columns of a table.

Owns:
- column types, resolved from the name of the method that defines a column;
- references to other tables;
- the attributes that rules are derived from.

Does not own: where a column comes from, a migration or a schema document.
-/

namespace FormRules

open FormRules.Text

inductive ColumnType where
  | string
  | text
  | integer
  | bigInteger
  | smallInteger
  | tinyInteger
  | decimal
  | float
  | boolean
  | date
  | dateTime
  | timestamp
  /-- Any other type, under its name in small letters. -/
  | unknown (name : String)
deriving DecidableEq, Repr

namespace ColumnType

/-- The types that have rules of their own, with their names. -/
def known : List (String × ColumnType) :=
  [("string", .string), ("text", .text), ("integer", .integer), ("biginteger", .bigInteger),
   ("smallinteger", .smallInteger), ("tinyinteger", .tinyInteger), ("decimal", .decimal),
   ("float", .float), ("boolean", .boolean), ("date", .date), ("datetime", .dateTime),
   ("timestamp", .timestamp)]

/-- The type that a name in small letters stands for. -/
def ofName (name : String) : ColumnType :=
  (known.lookup name).getD (.unknown name)

/-- The type that a method defines, whatever the case of its name. -/
def ofMethod (method : String) : ColumnType :=
  ofName (lowercase method)

def name : ColumnType → String
  | .string => "string"
  | .text => "text"
  | .integer => "integer"
  | .bigInteger => "biginteger"
  | .smallInteger => "smallinteger"
  | .tinyInteger => "tinyinteger"
  | .decimal => "decimal"
  | .float => "float"
  | .boolean => "boolean"
  | .date => "date"
  | .dateTime => "datetime"
  | .timestamp => "timestamp"
  | .unknown name => name

def isUnknown : ColumnType → Bool
  | .unknown _ => true
  | _ => false

@[simp]
theorem ofName_name_of_known (type : ColumnType) (known : type.isUnknown = false) :
    ofName type.name = type := by
  cases type with
  | unknown name => exact Bool.noConfusion known
  | _ => rfl

end ColumnType

/-- A reference to another table, and to one of its columns if it is given. -/
structure ForeignKey where
  table : String
  column : Option String := none
deriving DecidableEq, Repr

/-- The table and column referred to, if both are given and not empty. -/
def ForeignKey.target? (key : ForeignKey) : Option (String × String) :=
  match key.column with
  | some column => if key.table = "" ∨ column = "" then none else some (key.table, column)
  | none => none

structure Column where
  name : String
  type : ColumnType
  length : Option UInt32 := none
  nullable : Bool := false
  unique : Bool := false
  foreign : Option ForeignKey := none
deriving DecidableEq, Repr

namespace Column

/-- Only the type `string` has a length. -/
def effectiveLength (column : Column) : Option UInt32 :=
  if column.type = .string then column.length else none

def validate (column : Column) : Except Error Unit :=
  if isIdentifier column.name then .ok ()
  else .error (.validation ("Column name '" ++ column.name ++ "' is not a valid identifier"))

end Column

end FormRules
