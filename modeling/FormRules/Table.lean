import FormRules.Column
import FormRules.SkipLists

/-!
Contract: a table as an ordered list of columns with distinct names.

Owns:
- insertion, which replaces a column of the same name where it stands;
- lookup by name, and the table without its skipped columns;
- the check of table and column names.

Does not own: the statements that fill a table.
-/

namespace FormRules

/-- The columns with a new one put in: in the place of the column of the same
name, or else at the end. -/
def placeColumn (column : Column) : List Column → List Column
  | [] => [column]
  | head :: rest =>
      if head.name = column.name then column :: rest else head :: placeColumn column rest

/-- Placing a column adds its name at the end, or changes no name. -/
theorem placeColumn_names (column : Column) (columns : List Column) :
    (placeColumn column columns).map Column.name =
      if column.name ∈ columns.map Column.name then columns.map Column.name
      else columns.map Column.name ++ [column.name] := by
  induction columns with
  | nil => simp [placeColumn]
  | cons head rest inductionHypothesis =>
      unfold placeColumn
      by_cases same : head.name = column.name
      · simp [same]
      · have different : ¬column.name = head.name := fun equal => same equal.symm
        simp only [same, if_false, List.map_cons, inductionHypothesis, List.mem_cons, different,
          false_or]
        split <;> simp

theorem placeColumn_nodup (column : Column) {columns : List Column}
    (distinct : (columns.map Column.name).Nodup) :
    ((placeColumn column columns).map Column.name).Nodup := by
  rw [placeColumn_names]
  split
  next => exact distinct
  next fresh =>
    rw [List.nodup_append]
    refine ⟨distinct, by simp, ?_⟩
    intro name member last lastMember equal
    rw [List.mem_singleton] at lastMember
    exact fresh (lastMember ▸ equal ▸ member)

structure Table where
  name : String
  columns : List Column
  distinct : (columns.map Column.name).Nodup
deriving DecidableEq

namespace Table

/-- The table without columns. -/
def empty (name : String) : Table := ⟨name, [], List.nodup_nil⟩

def insert (table : Table) (column : Column) : Table :=
  { table with
    columns := placeColumn column table.columns
    distinct := placeColumn_nodup column table.distinct }

/-- The table with the given columns inserted one after the other. -/
def ofColumns (name : String) (columns : List Column) : Table :=
  columns.foldl insert (empty name)

def column? (table : Table) (name : String) : Option Column :=
  table.columns.find? fun column => column.name == name

/-- The place of a column in the order of first insertion. -/
def position? (table : Table) (name : String) : Option Nat :=
  table.columns.findIdx? fun column => column.name == name

/-- The table without its skipped columns. -/
def without (table : Table) (skip : SkipLists) : Table :=
  ofColumns table.name (table.columns.filter fun column => !skip.skipsColumn column.name)

/-- The table name has to be an identifier, and then every column name. -/
def validate (table : Table) : Except Error Unit :=
  if !isIdentifier table.name then
    .error (.tableValidation table.name "table name is not a valid identifier")
  else
    match table.columns.find? fun column => !isIdentifier column.name with
    | some column =>
        .error (.columnValidation table.name column.name "column name is not a valid identifier")
    | none => .ok ()

end Table

end FormRules
