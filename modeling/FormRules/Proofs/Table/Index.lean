import FormRules.Extraction
import FormRules.Proofs.Table
import FormRules.Table.Record
import Mathlib.Data.Finset.Card

/-!
Contract: a table that keeps the positions of its columns beside them.

Owns:
- insertion and lookup through the index of positions;
- the agreement of index, columns and `Table`, which every insertion keeps;
- names, order, lookup and number of columns after any run of insertions;
- the runs of insertions that documents and statements amount to.

Does not own: lookup by a search through the columns.
-/

namespace FormRules

/-- A table with an index from the names of its columns to their positions. -/
structure IndexedTable where
  name : String
  columns : List Column := []
  index : Std.HashMap String Nat := ∅

namespace IndexedTable

/-- Put a column in the place that the index has for its name, or else at the end
with a new place in the index.  The column that is replaced is returned. -/
def insert (table : IndexedTable) (column : Column) : IndexedTable × Option Column :=
  match table.index[column.name]? with
  | some position =>
      ({ table with columns := table.columns.set position column }, table.columns[position]?)
  | none =>
      ({ table with
          columns := table.columns ++ [column]
          index := table.index.insert column.name table.columns.length }, none)

def column? (table : IndexedTable) (name : String) : Option Column :=
  table.index[name]?.bind fun position => table.columns[position]?

/-- The table with the given columns inserted one after the other. -/
def ofColumns (name : String) (columns : List Column) : IndexedTable :=
  columns.foldl (fun table column => (table.insert column).1) { name }

/-- The index is that of the columns, and names, order, lookup and number of the
columns are those that the insertions account for. -/
structure IsRunOf (inserted : List Column) (table : IndexedTable) : Prop where
  distinct : (table.columns.map Column.name).Nodup
  index_iff : ∀ name position, table.index[name]? = some position ↔
    table.columns[position]?.map Column.name = some name
  names_eq : table.columns.map Column.name = (inserted.map Column.name).eraseDups
  column?_eq : ∀ name, table.column? name = inserted.findRev? fun column => column.name == name
  length_eq : table.columns.length = (inserted.map Column.name).toFinset.card
  replaced_eq : ∀ column, (table.insert column).2 = table.column? column.name

/-- Both have the same columns, and the index has the position of each. -/
structure Represents (indexed : IndexedTable) (table : Table) : Prop where
  name_eq : indexed.name = table.name
  columns_eq : indexed.columns = table.columns
  index_eq : ∀ name, indexed.index[name]? = table.position? name

end IndexedTable

/-! ## Positions -/

theorem placeColumn_of_position {column : Column} {columns : List Column} {position : Nat}
    (found : columns.findIdx? (fun candidate => candidate.name == column.name) = some position) :
    placeColumn column columns = columns.set position column := by
  induction columns generalizing position with
  | nil => cases found
  | cons head rest inductionHypothesis =>
      rw [List.findIdx?_cons] at found
      by_cases same : head.name = column.name
      · simp only [same, BEq.rfl, if_true, Option.some.injEq] at found
        subst found
        rw [placeColumn_cons_of_eq rest same, List.set_cons_zero]
      · have other : (head.name == column.name) = false := beq_eq_false_iff_ne.2 same
        simp only [other, Bool.false_eq_true, if_false, Option.map_eq_some_iff] at found
        obtain ⟨before, foundRest, rfl⟩ := found
        rw [placeColumn_cons_of_ne rest same, inductionHypothesis foundRest, List.set_cons_succ]

namespace Table

theorem position?_eq (table : Table) (name : String) :
    table.position? name = (table.columns.map Column.name).idxOf? name := by
  rw [position?, List.idxOf?, List.findIdx?_map]
  rfl

theorem position?_eq_none_iff (table : Table) (name : String) :
    table.position? name = none ↔ name ∉ table.columns.map Column.name := by
  rw [position?_eq, List.idxOf?_eq_none_iff]

/-- As names are distinct, the first position of a name is the only one. -/
theorem position?_eq_some_iff (table : Table) (name : String) (position : Nat) :
    table.position? name = some position ↔
      table.columns[position]?.map Column.name = some name := by
  rw [position?_eq, List.idxOf?_eq_some_iff, ← List.getElem?_map, List.getElem?_eq_some_iff]
  constructor
  · rintro ⟨below, same, _⟩
    exact ⟨below, same⟩
  · rintro ⟨below, same⟩
    refine ⟨below, same, ?_⟩
    intro earlier less sameEarlier
    have equal := (table.distinct.getElem_inj_iff).1 (sameEarlier.trans same.symm)
    exact Nat.ne_of_lt less equal

theorem column?_eq (table : Table) (name : String) :
    table.column? name = (table.position? name).bind fun position => table.columns[position]? :=
  List.find?_eq_bind_findIdx?_getElem?

theorem position?_insert_of_mem {table : Table} {column : Column}
    (present : column.name ∈ table.columns.map Column.name) (name : String) :
    (table.insert column).position? name = table.position? name := by
  rw [position?_eq, position?_eq, columns_insert, placeColumn_names, if_pos present]

theorem position?_insert_of_fresh {table : Table} {column : Column}
    (fresh : column.name ∉ table.columns.map Column.name) (name : String) :
    (table.insert column).position? name =
      if column.name == name then some table.columns.length else table.position? name := by
  rw [position?_eq, position?_eq, columns_insert, placeColumn_names, if_neg fresh]
  rw [List.idxOf?, List.findIdx?_append, ← List.idxOf?]
  by_cases same : column.name = name
  · have absent : (table.columns.map Column.name).idxOf? name = none :=
      List.idxOf?_eq_none_iff.2 (same ▸ fresh)
    simp [same, absent]
  · simp [same]

end Table

namespace IndexedTable

/-! ## Agreement -/

theorem represents_empty (name : String) : Represents { name } (Table.empty name) where
  name_eq := rfl
  columns_eq := rfl
  index_eq _ := Std.HashMap.getElem?_empty

theorem Represents.insert {indexed : IndexedTable} {table : Table}
    (agree : indexed.Represents table) (column : Column) :
    (indexed.insert column).1.Represents (table.insert column) := by
  unfold IndexedTable.insert
  rw [agree.index_eq]
  cases found : table.position? column.name with
  | some position =>
      have present : column.name ∈ table.columns.map Column.name := by
        by_contra absent
        rw [(table.position?_eq_none_iff column.name).2 absent] at found
        cases found
      refine ⟨agree.name_eq, ?columns, ?index⟩
      case columns =>
        rw [Table.columns_insert, placeColumn_of_position found, ← agree.columns_eq]
      case index =>
        intro name
        rw [Table.position?_insert_of_mem present]
        exact agree.index_eq name
  | none =>
      have fresh := (table.position?_eq_none_iff column.name).1 found
      refine ⟨agree.name_eq, ?columns, ?index⟩
      case columns =>
        rw [Table.columns_insert, placeColumn_of_fresh column fresh, ← agree.columns_eq]
      case index =>
        intro name
        rw [Table.position?_insert_of_fresh fresh, ← agree.columns_eq, ← agree.index_eq]
        exact Std.HashMap.getElem?_insert

theorem Represents.foldl_insert {indexed : IndexedTable} {table : Table}
    (agree : indexed.Represents table) (columns : List Column) :
    (columns.foldl (fun table column => (table.insert column).1) indexed).Represents
      (columns.foldl Table.insert table) := by
  induction columns generalizing indexed table with
  | nil => exact agree
  | cons head rest inductionHypothesis => exact inductionHypothesis (agree.insert head)

theorem represents_ofColumns (name : String) (columns : List Column) :
    (ofColumns name columns).Represents (Table.ofColumns name columns) :=
  (represents_empty name).foldl_insert columns

theorem Represents.column?_eq {indexed : IndexedTable} {table : Table}
    (agree : indexed.Represents table) (name : String) :
    indexed.column? name = table.column? name := by
  rw [column?, Table.column?_eq, agree.index_eq, agree.columns_eq]

/-- The replaced column is the one found before, whether or not the table is one
that insertions lead to. -/
theorem replaced_insert (table : IndexedTable) (column : Column) :
    (table.insert column).2 = table.column? column.name := by
  unfold insert column?
  cases table.index[column.name]? <;> rfl

end IndexedTable

/-! ## Runs of insertions -/

namespace Table

theorem ofColumns_concat (name : String) (columns : List Column) (column : Column) :
    ofColumns name (columns ++ [column]) = (ofColumns name columns).insert column := by
  rw [ofColumns, List.foldl_append]
  rfl

theorem eraseDups_concat (names : List String) (name : String) :
    (names ++ [name]).eraseDups =
      if name ∈ names then names.eraseDups else names.eraseDups ++ [name] := by
  rw [List.eraseDups_append]
  by_cases present : name ∈ names <;> simp [List.removeAll, List.eraseDups_cons, present]

/-- Names stand in the order in which they are first inserted. -/
theorem names_ofColumns (name : String) (inserted : List Column) :
    (ofColumns name inserted).columns.map Column.name =
      (inserted.map Column.name).eraseDups := by
  induction inserted using List.reverseRecOn with
  | nil => rfl
  | append_singleton earlier column inductionHypothesis =>
      rw [ofColumns_concat, columns_insert, placeColumn_names, inductionHypothesis,
        List.map_append, List.map_singleton, eraseDups_concat]
      simp only [List.mem_eraseDups]

/-- The column inserted last under a name is the one found. -/
theorem column?_ofColumns (name : String) (inserted : List Column) (key : String) :
    (ofColumns name inserted).column? key =
      inserted.findRev? fun column => column.name == key := by
  rw [List.findRev?_eq_find?_reverse]
  induction inserted using List.reverseRecOn with
  | nil => rfl
  | append_singleton earlier column inductionHypothesis =>
      rw [ofColumns_concat, column?_insert, inductionHypothesis, List.reverse_append,
        List.reverse_singleton, List.singleton_append]
      by_cases same : column.name = key <;> simp [same]

theorem length_ofColumns (name : String) (inserted : List Column) :
    (ofColumns name inserted).columns.length = (inserted.map Column.name).toFinset.card := by
  have sameNames : ((ofColumns name inserted).columns.map Column.name).toFinset =
      (inserted.map Column.name).toFinset := by
    ext key
    rw [List.mem_toFinset, List.mem_toFinset, names_ofColumns, List.mem_eraseDups]
  rw [← sameNames, List.toFinset_card_of_nodup (ofColumns name inserted).distinct,
    List.length_map]

/-! ## Runs of insertions that tables come from -/

/-- The column that a statement has inserted: the one it defines, or the one it
targets as the constraint leaves it. -/
def inserted? (skip : SkipLists) (table : Table) (statement : Statement) : Option Column :=
  if statement.isConstraint then
    (statement.target?.bind table.column?).bind statement.annotated?
  else statement.column?.filter fun column => !skip.skipsColumn column.name

/-- The columns that statements have inserted, one after the other. -/
def insertions (skip : SkipLists) (table : Table) : List Statement → List Column
  | [] => []
  | statement :: rest =>
      (table.inserted? skip statement).toList ++
        (table.apply skip statement).insertions skip rest

theorem apply_eq_foldl (skip : SkipLists) (table : Table) (statement : Statement) :
    table.apply skip statement = (table.inserted? skip statement).toList.foldl insert table := by
  unfold apply inserted?
  by_cases constraint : statement.isConstraint = true
  · rw [if_pos constraint, if_pos constraint, annotate]
    cases (statement.target?.bind table.column?).bind statement.annotated? <;> rfl
  · rw [if_neg constraint, if_neg constraint]
    cases statement.column? with
    | none => rfl
    | some column => by_cases skipped : skip.skipsColumn column.name <;>
          simp [Option.filter_some, skipped]

theorem foldl_apply_eq (skip : SkipLists) (table : Table) (statements : List Statement) :
    statements.foldl (apply skip) table =
      (table.insertions skip statements).foldl insert table := by
  induction statements generalizing table with
  | nil => rfl
  | cons head rest inductionHypothesis =>
      rw [List.foldl_cons, inductionHypothesis, insertions, List.foldl_append, apply_eq_foldl]

theorem ofStatements_eq (skip : SkipLists) (name : String) (statements : List Statement) :
    ofStatements skip name statements =
      ofColumns name ((empty name).insertions skip statements) :=
  foldl_apply_eq skip (empty name) statements

/-- The name and the columns that a table of a document is given with. -/
def record? (value : Json) : Option (String × List Column) := do
  let fields ← Json.fields? Json.strict ["name", "columns"] value
  let name ← Json.required fields "name" Json.string?
  let columns ← Json.withDefault fields "columns" [] (Json.listOf Column.ofJson?)
  return (name, columns)

theorem ofJson?_eq (value : Json) :
    ofJson? value = (record? value).map fun record => ofColumns record.1 record.2 := by
  simp [ofJson?, record?, Option.map_bind]

end Table

namespace IndexedTable

theorem isRunOf_ofColumns (name : String) (inserted : List Column) :
    (ofColumns name inserted).IsRunOf inserted := by
  have agree := represents_ofColumns name inserted
  refine ⟨?distinct, ?index, ?names, ?lookup, ?length, replaced_insert _⟩
  case distinct =>
    rw [agree.columns_eq]
    exact (Table.ofColumns name inserted).distinct
  case index =>
    intro key position
    rw [agree.index_eq, agree.columns_eq, Table.position?_eq_some_iff]
  case names => rw [agree.columns_eq, Table.names_ofColumns]
  case lookup =>
    intro key
    rw [agree.column?_eq, Table.column?_ofColumns]
  case length => rw [agree.columns_eq, Table.length_ofColumns]

/-- Index and columns are consistent after every run of insertions, and agree with the
table that finds columns by search.  Tables that statements define, tables without
their skipped columns and tables of documents all come from such runs. -/
theorem ofColumns_consistent (name : String) (inserted : List Column) :
    (ofColumns name inserted).IsRunOf inserted ∧
      (ofColumns name inserted).Represents (Table.ofColumns name inserted) ∧
      (∀ key, (ofColumns name inserted).column? key =
        (Table.ofColumns name inserted).column? key) ∧
      (∀ skip statements, Table.ofStatements skip name statements =
        Table.ofColumns name ((Table.empty name).insertions skip statements)) ∧
      (∀ (table : Table) skip, table.without skip =
        Table.ofColumns table.name
          (table.columns.filter fun column => !skip.skipsColumn column.name)) ∧
      ∀ value, Table.ofJson? value =
        (Table.record? value).map fun record => Table.ofColumns record.1 record.2 := by
  have agree := represents_ofColumns name inserted
  refine ⟨isRunOf_ofColumns name inserted, agree, agree.column?_eq, ?statements, ?without, ?json⟩
  case statements => exact fun skip statements => Table.ofStatements_eq skip name statements
  case without => exact fun table skip => rfl
  case json => exact Table.ofJson?_eq

end IndexedTable

end FormRules
