import FormRules.Extraction
import FormRules.Proofs.Table

/-!
Contract: what one statement does to a table.

Owns:
- the column that a name finds after a statement, as a function of the column
  it found before;
- the names after a statement;
- the exchange of a statement with the leaving out of skipped columns.

Does not own: runs of several statements.
-/

namespace FormRules

open FormRules.Text

namespace Statement

theorem name_of_annotated? {statement : Statement} {column changed : Column}
    (found : statement.annotated? column = some changed) :
    changed.name = column.name := by
  unfold annotated? at found
  split at found
  · cases found
    rfl
  · split at found
    · split at found
      · cases found
        rfl
      · cases found
    · cases found

/-- A statement that defines a column targets its name and is no constraint. -/
theorem defines_of_column? {statement : Statement} {column : Column}
    (found : statement.column? = some column) :
    statement.isConstraint = false ∧ statement.target? = some column.name := by
  unfold column? at found
  split at found
  · cases found
  next plain =>
    obtain ⟨name, targeted, same⟩ := Option.map_eq_some_iff.1 found
    refine ⟨by simpa using plain, ?_⟩
    rw [targeted, ← same]

/-- What a statement does to the column of the given name, as far as there is
one. -/
def onColumn (skip : SkipLists) (name : String) (statement : Statement)
    (current : Option Column) : Option Column :=
  if statement.target? = some name then
    if statement.isConstraint then
      current.map fun column => (statement.annotated? column).getD column
    else if skip.skipsColumn name then current
    else statement.column?
  else current

/-- A statement leaves the columns of other names alone. -/
theorem onColumn_of_other {skip : SkipLists} {name : String} {statement : Statement}
    (other : statement.target? ≠ some name) (current : Option Column) :
    statement.onColumn skip name current = current := by
  rw [onColumn, if_neg other]

/-- The name of the column that a statement defines, unless it is skipped. -/
def definedName? (skip : SkipLists) (statement : Statement) : Option String :=
  (statement.column?.map Column.name).filter fun name => !skip.skipsColumn name

theorem definedName?_of_column? {statement : Statement} {column : Column}
    (defined : statement.column? = some column) (skip : SkipLists) :
    statement.definedName? skip =
      if skip.skipsColumn column.name then none else some column.name := by
  rw [definedName?, defined, Option.map_some, Option.filter_some]
  by_cases skipped : skip.skipsColumn column.name = true <;> simp [skipped]

theorem definedName?_of_undefined {statement : Statement}
    (undefined : statement.column? = none) (skip : SkipLists) :
    statement.definedName? skip = none := by
  rw [definedName?, undefined, Option.map_none, Option.filter_none]

end Statement

namespace Table

/-! ## Constraints -/

theorem annotate_of_changed {table : Table} {statement : Statement} {name : String}
    {column changed : Column} (targeted : statement.target? = some name)
    (found : table.column? name = some column)
    (effect : statement.annotated? column = some changed) :
    table.annotate statement = table.insert changed := by
  simp only [annotate, targeted, Option.bind_some, found, effect]

theorem annotate_of_unchanged {table : Table} {statement : Statement}
    (noEffect : (statement.target?.bind table.column?).bind statement.annotated? = none) :
    table.annotate statement = table := by
  simp only [annotate, noEffect]

/-- A constraint either leaves the table alone or changes the column it
targets in place. -/
theorem annotate_cases (table : Table) (statement : Statement) :
    (∃ name column changed, statement.target? = some name ∧ table.column? name = some column ∧
      statement.annotated? column = some changed ∧ changed.name = name ∧
      table.annotate statement = table.insert changed) ∨
    ((statement.target?.bind table.column?).bind statement.annotated? = none ∧
      table.annotate statement = table) := by
  cases outcome : (statement.target?.bind table.column?).bind statement.annotated? with
  | none => exact .inr ⟨rfl, annotate_of_unchanged outcome⟩
  | some changed =>
      obtain ⟨column, located, effect⟩ := Option.bind_eq_some_iff.1 outcome
      obtain ⟨name, targeted, found⟩ := Option.bind_eq_some_iff.1 located
      have named : changed.name = name :=
        (Statement.name_of_annotated? effect).trans (name_of_column? found)
      exact .inl ⟨name, column, changed, targeted, found, effect, named,
        annotate_of_changed targeted found effect⟩

@[simp]
theorem name_annotate (table : Table) (statement : Statement) :
    (table.annotate statement).name = table.name := by
  rcases table.annotate_cases statement with ⟨_, _, _, _, _, _, _, same⟩ | ⟨_, same⟩ <;>
    rw [same]
  exact name_insert _ _

theorem names_annotate (table : Table) (statement : Statement) :
    (table.annotate statement).columns.map Column.name = table.columns.map Column.name := by
  rcases table.annotate_cases statement with ⟨_, _, _, _, found, _, named, same⟩ | ⟨_, same⟩
  · rw [same]
    exact names_insert_of_column? found named
  · rw [same]

theorem column?_annotate (table : Table) (statement : Statement) (name : String) :
    (table.annotate statement).column? name =
      if statement.target? = some name then
        (table.column? name).map fun column => (statement.annotated? column).getD column
      else table.column? name := by
  rcases table.annotate_cases statement with
    ⟨target, column, changed, targeted, found, effect, named, same⟩ | ⟨noEffect, same⟩
  · rw [same, column?_insert, named, targeted]
    by_cases here : target = name
    · subst here
      simp [found, effect]
    · simp [here]
  · rw [same]
    by_cases here : statement.target? = some name
    · rw [if_pos here]
      rw [here, Option.bind_some] at noEffect
      cases found : table.column? name with
      | none => rfl
      | some column =>
          rw [found, Option.bind_some] at noEffect
          simp [noEffect]
    · rw [if_neg here]

/-- Skipped columns may be left out before or after a constraint is applied. -/
theorem without_annotate (table : Table) (skip : SkipLists) (statement : Statement) :
    (table.annotate statement).without skip = (table.without skip).annotate statement := by
  rcases table.annotate_cases statement with
    ⟨name, column, changed, targeted, found, effect, named, same⟩ | ⟨noEffect, same⟩
  · rw [same, without_insert, named]
    have lookup := column?_without table skip name
    by_cases skipped : skip.skipsColumn name = true
    · rw [if_pos skipped] at lookup ⊢
      rw [annotate_of_unchanged]
      simp [targeted, lookup]
    · rw [if_neg skipped] at lookup ⊢
      rw [annotate_of_changed targeted (lookup.trans found) effect]
  · rw [same, annotate_of_unchanged]
    cases targeted : statement.target? with
    | none => rfl
    | some name =>
        rw [targeted, Option.bind_some] at noEffect
        rw [Option.bind_some, column?_without]
        split
        · rfl
        · exact noEffect

/-! ## Statements -/

/-- Every statement is a constraint, defines a column, or does nothing. -/
theorem apply_cases (skip : SkipLists) (table : Table) (statement : Statement) :
    (statement.isConstraint = true ∧ statement.column? = none ∧
      table.apply skip statement = table.annotate statement) ∨
    (∃ column, statement.isConstraint = false ∧ statement.column? = some column ∧
      table.apply skip statement =
        if skip.skipsColumn column.name then table else table.insert column) ∨
    (statement.isConstraint = false ∧ statement.target? = none ∧ statement.column? = none ∧
      table.apply skip statement = table) := by
  by_cases constraint : statement.isConstraint = true
  · refine .inl ⟨constraint, ?_, ?_⟩
    · rw [Statement.column?, if_pos constraint]
    · rw [apply, if_pos constraint]
  · have plain : statement.isConstraint = false := by simpa using constraint
    cases defined : statement.column? with
    | some column =>
        refine .inr (.inl ⟨column, plain, rfl, ?_⟩)
        simp only [apply, plain, defined, Bool.false_eq_true, if_false]
    | none =>
        refine .inr (.inr ⟨plain, ?_, rfl, ?_⟩)
        · rw [Statement.column?, if_neg constraint] at defined
          exact Option.map_eq_none_iff.1 defined
        · simp only [apply, plain, defined, Bool.false_eq_true, if_false]

@[simp]
theorem name_apply (skip : SkipLists) (table : Table) (statement : Statement) :
    (table.apply skip statement).name = table.name := by
  rcases table.apply_cases skip statement with
    ⟨_, _, same⟩ | ⟨column, _, _, same⟩ | ⟨_, _, _, same⟩ <;> rw [same]
  · exact name_annotate table statement
  · split <;> rfl

/-- The column found after a statement depends on the one found before under
the same name, and on nothing else in the table. -/
theorem column?_apply (skip : SkipLists) (table : Table) (statement : Statement)
    (name : String) :
    (table.apply skip statement).column? name =
      statement.onColumn skip name (table.column? name) := by
  rcases table.apply_cases skip statement with
    ⟨constraint, _, same⟩ | ⟨column, plain, defined, same⟩ | ⟨plain, untargeted, _, same⟩
  · rw [same, column?_annotate, Statement.onColumn, if_pos constraint]
  · have targeted := (Statement.defines_of_column? defined).2
    rw [same, Statement.onColumn, targeted, plain, defined]
    by_cases here : column.name = name
    · subst here
      by_cases skipped : skip.skipsColumn column.name = true
      · simp [skipped]
      · simp [skipped, column?_insert]
    · by_cases skipped : skip.skipsColumn column.name = true
      · simp [skipped, here]
      · simp [skipped, here, column?_insert]
  · rw [same, Statement.onColumn_of_other]
    rw [untargeted]
    exact Option.some_ne_none name ∘ Eq.symm

/-- A statement adds at most the name it defines, and adds it at the end. -/
theorem names_apply (skip : SkipLists) (table : Table) (statement : Statement) :
    (table.apply skip statement).columns.map Column.name =
      table.columns.map Column.name ++
        (statement.definedName? skip).toList.removeAll (table.columns.map Column.name) := by
  rcases table.apply_cases skip statement with
    ⟨_, undefined, same⟩ | ⟨column, _, defined, same⟩ | ⟨_, _, undefined, same⟩
  · rw [same, names_annotate, Statement.definedName?_of_undefined undefined]
    simp [List.removeAll]
  · rw [same, Statement.definedName?_of_column? defined]
    by_cases skipped : skip.skipsColumn column.name = true
    · simp [skipped, List.removeAll]
    · rw [if_neg skipped, if_neg skipped, columns_insert, placeColumn_names, Option.toList_some]
      generalize table.columns.map Column.name = names
      by_cases member : column.name ∈ names <;> simp [member, List.removeAll]
  · rw [same, Statement.definedName?_of_undefined undefined]
    simp [List.removeAll]

/-- Skipped columns may be left out before or after a statement is applied:
what it defines is either skipped in both cases or kept in both. -/
theorem without_apply (skip : SkipLists) (table : Table) (statement : Statement) :
    (table.apply .none statement).without skip = (table.without skip).apply skip statement := by
  rcases table.apply_cases .none statement with
    ⟨constraint, _, same⟩ | ⟨column, plain, defined, same⟩ | ⟨plain, _, undefined, same⟩
  · rw [same, without_annotate, apply, if_pos constraint]
  · have kept : SkipLists.none.skipsColumn column.name = false := rfl
    rw [same, kept, if_neg Bool.false_ne_true, without_insert]
    simp only [apply, plain, defined, Bool.false_eq_true, if_false]
  · rw [same]
    simp only [apply, plain, undefined, Bool.false_eq_true, if_false]

end Table

end FormRules
