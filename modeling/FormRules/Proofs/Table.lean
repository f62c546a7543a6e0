import FormRules.Table
import Mathlib.Data.List.Nodup

/-!
Contract: the laws of a table as an ordered list of columns with distinct
names.

Owns:
- what the placing of a column does to lookup and to a selection by name;
- the effect of `insert` and `without` on lookup, names and columns;
- the table rebuilt from its own columns.

Does not own: the statements that decide which columns are inserted.
-/

namespace FormRules

/-! ## Placing a column -/

theorem placeColumn_cons_of_eq {column head : Column} (rest : List Column)
    (same : head.name = column.name) :
    placeColumn column (head :: rest) = column :: rest := by
  rw [placeColumn, if_pos same]

theorem placeColumn_cons_of_ne {column head : Column} (rest : List Column)
    (different : head.name ≠ column.name) :
    placeColumn column (head :: rest) = head :: placeColumn column rest := by
  rw [placeColumn, if_neg different]

/-- A column of a new name goes to the end. -/
theorem placeColumn_of_fresh (column : Column) {columns : List Column}
    (fresh : column.name ∉ columns.map Column.name) :
    placeColumn column columns = columns ++ [column] := by
  induction columns with
  | nil => rfl
  | cons head rest inductionHypothesis =>
      simp only [List.map_cons, List.mem_cons, not_or] at fresh
      have different : head.name ≠ column.name := fun same => fresh.1 same.symm
      rw [placeColumn_cons_of_ne rest different, inductionHypothesis fresh.2, List.cons_append]

/-- The placed column is found under its name, every other name finds what it
found before. -/
theorem find?_placeColumn (column : Column) (columns : List Column) (name : String) :
    (placeColumn column columns).find? (fun candidate => candidate.name == name) =
      if column.name = name then some column
      else columns.find? fun candidate => candidate.name == name := by
  induction columns with
  | nil => by_cases same : column.name = name <;> simp [placeColumn, same]
  | cons head rest inductionHypothesis =>
      by_cases replaced : head.name = column.name
      · rw [placeColumn_cons_of_eq rest replaced]
        by_cases same : column.name = name <;> simp [replaced, same]
      · rw [placeColumn_cons_of_ne rest replaced, List.find?_cons, List.find?_cons,
          inductionHypothesis]
        by_cases same : column.name = name
        · have headOther : (head.name == name) = false :=
            beq_eq_false_iff_ne.2 fun equal => replaced (equal.trans same.symm)
          simp only [headOther, if_pos same]
        · simp [same]

/-- Selecting by name afterwards is placing the column in the selection, if its
name is selected at all. -/
theorem filter_placeColumn (keep : String → Bool) (column : Column) (columns : List Column) :
    (placeColumn column columns).filter (fun candidate => keep candidate.name) =
      if keep column.name then
        placeColumn column (columns.filter fun candidate => keep candidate.name)
      else columns.filter fun candidate => keep candidate.name := by
  induction columns with
  | nil => by_cases kept : keep column.name <;> simp [placeColumn, kept]
  | cons head rest inductionHypothesis =>
      by_cases replaced : head.name = column.name
      · rw [placeColumn_cons_of_eq rest replaced]
        by_cases kept : keep column.name <;> simp [replaced, kept, placeColumn_cons_of_eq]
      · rw [placeColumn_cons_of_ne rest replaced, List.filter_cons, List.filter_cons,
          inductionHypothesis]
        by_cases headKept : keep head.name
        · by_cases kept : keep column.name <;>
            simp [headKept, kept, placeColumn_cons_of_ne _ replaced]
        · simp [headKept]

namespace Table

/-- A table is its name and its columns. -/
theorem eq_of_columns {left right : Table} (name : left.name = right.name)
    (columns : left.columns = right.columns) :
    left = right := by
  cases left
  cases right
  simp only at name columns
  subst name columns
  rfl

/-! ## Insertion -/

@[simp]
theorem name_insert (table : Table) (column : Column) :
    (table.insert column).name = table.name := rfl

@[simp]
theorem columns_insert (table : Table) (column : Column) :
    (table.insert column).columns = placeColumn column table.columns := rfl

theorem column?_insert (table : Table) (column : Column) (name : String) :
    (table.insert column).column? name =
      if column.name = name then some column else table.column? name :=
  find?_placeColumn column table.columns name

/-- A column is found under its own name. -/
theorem name_of_column? {table : Table} {name : String} {column : Column}
    (found : table.column? name = some column) :
    column.name = name := by
  have selected := List.find?_some found
  simpa using selected

/-- No other column has the name of a column. -/
theorem column?_of_mem {table : Table} {column : Column} (member : column ∈ table.columns) :
    table.column? column.name = some column := by
  cases found : table.column? column.name with
  | none => exact absurd BEq.rfl (List.find?_eq_none.1 found column member)
  | some other =>
      have same := List.inj_on_of_nodup_map table.distinct (List.mem_of_find?_eq_some found) member
        (name_of_column? found)
      rw [same]

theorem mem_names_iff (table : Table) (name : String) :
    name ∈ table.columns.map Column.name ↔ (table.column? name).isSome := by
  simp [column?, List.find?_isSome]

/-- Inserting a column whose name is there already moves no column. -/
theorem names_insert_of_column? {table : Table} {name : String} {old column : Column}
    (found : table.column? name = some old) (same : column.name = name) :
    (table.insert column).columns.map Column.name = table.columns.map Column.name := by
  have member : column.name ∈ table.columns.map Column.name := by
    rw [mem_names_iff, same, found]
    rfl
  rw [columns_insert, placeColumn_names, if_pos member]

/-! ## Tables built from columns -/

theorem name_foldl_insert (columns : List Column) (table : Table) :
    (columns.foldl insert table).name = table.name := by
  induction columns generalizing table with
  | nil => rfl
  | cons head rest inductionHypothesis => exact inductionHypothesis (table.insert head)

/-- Columns of distinct new names are put at the end in their order. -/
theorem columns_foldl_insert {columns : List Column} {table : Table}
    (distinct : ((table.columns ++ columns).map Column.name).Nodup) :
    (columns.foldl insert table).columns = table.columns ++ columns := by
  induction columns generalizing table with
  | nil => simp
  | cons head rest inductionHypothesis =>
      have fresh : head.name ∉ table.columns.map Column.name := by
        intro member
        rw [List.map_append, List.map_cons] at distinct
        exact (List.nodup_append.1 distinct).2.2 head.name member head.name
          List.mem_cons_self rfl
      have placed : (table.insert head).columns = table.columns ++ [head] :=
        placeColumn_of_fresh head fresh
      have split : (table.insert head).columns ++ rest = table.columns ++ head :: rest := by
        rw [placed, List.append_assoc, List.singleton_append]
      rw [List.foldl_cons, inductionHypothesis (split ▸ distinct), split]

theorem columns_ofColumns (name : String) {columns : List Column}
    (distinct : (columns.map Column.name).Nodup) :
    (ofColumns name columns).columns = columns := by
  have fromEmpty : (((empty name).columns ++ columns).map Column.name).Nodup := distinct
  exact columns_foldl_insert fromEmpty

@[simp]
theorem name_ofColumns (name : String) (columns : List Column) :
    (ofColumns name columns).name = name :=
  name_foldl_insert columns (empty name)

/-! ## Tables without their skipped columns -/

@[simp]
theorem name_without (table : Table) (skip : SkipLists) :
    (table.without skip).name = table.name :=
  name_ofColumns _ _

/-- Leaving out skipped columns keeps the others, their attributes and their
order. -/
theorem columns_without (table : Table) (skip : SkipLists) :
    (table.without skip).columns =
      table.columns.filter fun column => !skip.skipsColumn column.name := by
  apply columns_ofColumns
  exact table.distinct.sublist (List.filter_sublist.map Column.name)

theorem column?_without (table : Table) (skip : SkipLists) (name : String) :
    (table.without skip).column? name =
      if skip.skipsColumn name then none else table.column? name := by
  rw [column?, columns_without, List.find?_filter]
  by_cases skipped : skip.skipsColumn name = true
  · rw [if_pos skipped, List.find?_eq_none]
    intro column _ both
    simp only [decide_eq_true_eq, Bool.not_eq_true', beq_iff_eq] at both
    rw [both.2, skipped] at both
    exact Bool.noConfusion both.1
  · rw [if_neg skipped, column?]
    congr 1
    funext column
    by_cases same : column.name = name <;> simp [same, skipped]

/-- A skipped column may be inserted or not before the skipped columns are left
out. -/
theorem without_insert (table : Table) (skip : SkipLists) (column : Column) :
    (table.insert column).without skip =
      if skip.skipsColumn column.name then table.without skip
      else (table.without skip).insert column := by
  have selected := filter_placeColumn (fun name => !skip.skipsColumn name) column table.columns
  by_cases skipped : skip.skipsColumn column.name = true
  · rw [if_pos skipped]
    apply eq_of_columns
    · simp
    · rw [columns_without, columns_without, columns_insert, selected]
      simp [skipped]
  · rw [if_neg skipped]
    apply eq_of_columns
    · simp
    · rw [columns_without, columns_insert, columns_insert, columns_without, selected]
      simp [skipped]

end Table

end FormRules
