import FormRules.Proofs.Extraction.Step
import FormRules.Proofs.Statement.Modifiers
import Mathlib.Data.List.Induction

/-!
Contract: what a whole run of statements makes of each column.

Owns:
- the column that a name finds after a run, as the last definition of the name
  with the constraints that come after it;
- the order of the columns;
- the independence of a column from statements on other names.

Does not own: the effect of a single statement.
-/

namespace FormRules

namespace Statement

/-- The statement defines the column of the given name. -/
def Defines (name : String) (statement : Statement) : Prop :=
  ∃ column, statement.column? = some column ∧ column.name = name

/-- The statement makes the column of the given name unique. -/
def makesUnique (name : String) (statement : Statement) : Bool :=
  statement.call.isNamed "unique" && statement.target? == some name

/-- The reference that a foreign constraint on the given name states in full. -/
def reference? (name : String) (statement : Statement) : Option ForeignKey :=
  if statement.call.isNamed "foreign" && statement.target? == some name then
    match statement.modifierText? "on", statement.modifierText? "references" with
    | some table, some target => some ⟨table, some target⟩
    | _, _ => none
  else none

end Statement

/-- The column as later statements leave it if none of them redefines it. -/
def Column.annotatedBy (column : Column) (later : List Statement) : Column :=
  { column with
    unique := column.unique || later.any (Statement.makesUnique column.name)
    foreign := column.foreign.or (later.findSome? (Statement.reference? column.name)) }

@[simp]
theorem Column.annotatedBy_nil (column : Column) : column.annotatedBy [] = column := by
  cases column
  simp [annotatedBy]

theorem Column.annotatedBy_cons (column : Column) (statement : Statement)
    (later : List Statement) :
    column.annotatedBy (statement :: later) = (column.annotatedBy [statement]).annotatedBy later := by
  simp only [annotatedBy, List.any_cons, List.any_nil, Bool.or_false, Bool.or_assoc,
    List.findSome?_cons, List.findSome?_nil]
  cases column.foreign <;> cases statement.reference? column.name <;> simp

namespace Statement

/-! ## One statement after a definition -/

/-- A statement on a name that does not define it is a constraint. -/
theorem isConstraint_of_not_defines {name : String} {statement : Statement}
    (targeted : statement.target? = some name) (undefined : ¬statement.Defines name) :
    statement.isConstraint = true := by
  by_contra plain
  apply undefined
  unfold Defines column?
  rw [if_neg plain, targeted]
  exact ⟨_, rfl, rfl⟩

theorem not_isNamed_foreign_of_unique {call : Call} (unique : call.isNamed "unique" = true) :
    call.isNamed "foreign" = false := by
  rw [← Call.isOneOf_singleton] at unique ⊢
  exact Call.isOneOf_eq_false_of_isOneOf unique (by decide)

theorem annotatedBy_of_other {statement : Statement} {column : Column}
    (other : statement.target? ≠ some column.name) :
    column.annotatedBy [statement] = column := by
  cases column
  simp [Column.annotatedBy, makesUnique, reference?, other]

/-- A statement on a column annotates it as stated by `annotatedBy`. -/
theorem annotated?_getD {statement : Statement} {column : Column}
    (targeted : statement.target? = some column.name) :
    (statement.annotated? column).getD column = column.annotatedBy [statement] := by
  obtain ⟨name, type, length, nullable, unique, foreign⟩ := column
  simp only [annotated?, Column.annotatedBy, List.any_cons, List.any_nil, Bool.or_false,
    List.findSome?_cons, List.findSome?_nil, makesUnique, reference?, targeted,
    beq_self_eq_true, Bool.and_true]
  by_cases onUnique : statement.call.isNamed "unique" = true
  · simp [onUnique, not_isNamed_foreign_of_unique onUnique]
  · by_cases onForeign : statement.call.isNamed "foreign" = true
    · cases foreign with
      | some key => simp [onUnique, onForeign]
      | none =>
          cases statement.modifierText? "on" <;> cases statement.modifierText? "references" <;>
            simp [onUnique, onForeign]
    · simp [onUnique, onForeign]

theorem onColumn_some {skip : SkipLists} {statement : Statement} {column : Column}
    (undefined : ¬statement.Defines column.name) :
    statement.onColumn skip column.name (some column) =
      some (column.annotatedBy [statement]) := by
  by_cases targeted : statement.target? = some column.name
  · rw [onColumn, if_pos targeted, if_pos (isConstraint_of_not_defines targeted undefined),
      Option.map_some, annotated?_getD targeted]
  · rw [onColumn_of_other targeted, annotatedBy_of_other targeted]

theorem onColumn_none {skip : SkipLists} {name : String} {statement : Statement}
    (inert : skip.skipsColumn name = true ∨ ¬statement.Defines name) :
    statement.onColumn skip name none = none := by
  unfold onColumn
  split
  next targeted =>
    split
    · rfl
    next plain =>
      rcases inert with skipped | undefined
      · rw [if_pos skipped]
      · exact absurd (isConstraint_of_not_defines targeted undefined) plain
  · rfl

theorem onColumn_of_definition {skip : SkipLists} {statement : Statement} {column : Column}
    (defined : statement.column? = some column)
    (kept : skip.skipsColumn column.name = false) (current : Option Column) :
    statement.onColumn skip column.name current = some column := by
  obtain ⟨plain, targeted⟩ := defines_of_column? defined
  simp [onColumn, plain, targeted, kept, defined]

end Statement

namespace Table

/-! ## Runs -/

theorem ofStatements_concat (skip : SkipLists) (name : String) (statements : List Statement)
    (last : Statement) :
    ofStatements skip name (statements ++ [last]) =
      (ofStatements skip name statements).apply skip last := by
  simp [ofStatements]

@[simp]
theorem name_foldl_apply (skip : SkipLists) (table : Table) (later : List Statement) :
    (later.foldl (apply skip) table).name = table.name := by
  induction later generalizing table with
  | nil => rfl
  | cons head rest inductionHypothesis =>
      rw [List.foldl_cons, inductionHypothesis, name_apply]

@[simp]
theorem name_ofStatements (skip : SkipLists) (name : String) (statements : List Statement) :
    (ofStatements skip name statements).name = name :=
  name_foldl_apply skip (empty name) statements

/-- Looking a name up after a run is following its column through the run. -/
theorem column?_foldl_apply (skip : SkipLists) (table : Table) (later : List Statement)
    (name : String) :
    (later.foldl (apply skip) table).column? name =
      later.foldl (fun current statement => statement.onColumn skip name current)
        (table.column? name) := by
  induction later generalizing table with
  | nil => rfl
  | cons head rest inductionHypothesis =>
      rw [List.foldl_cons, inductionHypothesis, column?_apply, List.foldl_cons]

theorem column?_ofStatements (skip : SkipLists) (tableName : String)
    (statements : List Statement) (name : String) :
    (ofStatements skip tableName statements).column? name =
      statements.foldl (fun current statement => statement.onColumn skip name current) none :=
  column?_foldl_apply skip (empty tableName) statements name

theorem foldl_onColumn_none {skip : SkipLists} {name : String} {statements : List Statement}
    (inert : skip.skipsColumn name = true ∨ ∀ statement ∈ statements, ¬statement.Defines name) :
    statements.foldl (fun current statement => statement.onColumn skip name current) none =
      none := by
  induction statements with
  | nil => rfl
  | cons head rest inductionHypothesis =>
      have headInert : skip.skipsColumn name = true ∨ ¬head.Defines name :=
        inert.imp_right fun undefined => undefined head List.mem_cons_self
      have restInert : skip.skipsColumn name = true ∨
          ∀ statement ∈ rest, ¬statement.Defines name :=
        inert.imp_right fun undefined statement member =>
          undefined statement (List.mem_cons_of_mem head member)
      rw [List.foldl_cons, Statement.onColumn_none headInert, inductionHypothesis restInert]

theorem foldl_onColumn_some {skip : SkipLists} {column : Column} {statements : List Statement}
    (undefined : ∀ statement ∈ statements, ¬statement.Defines column.name) :
    statements.foldl (fun current statement => statement.onColumn skip column.name current)
        (some column) =
      some (column.annotatedBy statements) := by
  induction statements generalizing column with
  | nil => simp
  | cons head rest inductionHypothesis =>
      have headUndefined := undefined head List.mem_cons_self
      have restUndefined : ∀ statement ∈ rest,
          ¬statement.Defines (column.annotatedBy [head]).name :=
        fun statement member => undefined statement (List.mem_cons_of_mem head member)
      rw [List.foldl_cons, Statement.onColumn_some headUndefined,
        Column.annotatedBy_cons column head rest]
      exact inductionHypothesis restUndefined

/-- The last definition of a name, if it is not skipped, and what is stated
about it afterwards make its column. -/
theorem column?_of_last_definition {skip : SkipLists} {tableName : String}
    {before after : List Statement} {definition : Statement} {column : Column}
    (defined : definition.column? = some column)
    (kept : skip.skipsColumn column.name = false)
    (last : ∀ statement ∈ after, ¬statement.Defines column.name) :
    (ofStatements skip tableName (before ++ definition :: after)).column? column.name =
      some (column.annotatedBy after) := by
  rw [column?_ofStatements, List.foldl_append, List.foldl_cons,
    Statement.onColumn_of_definition defined kept]
  exact foldl_onColumn_some last

/-- A statement on another name does not count. -/
theorem foldl_onColumn_filter (skip : SkipLists) (name : String) (statements : List Statement)
    (current : Option Column) :
    statements.foldl (fun current statement => statement.onColumn skip name current) current =
      (statements.filter fun statement => statement.target? == some name).foldl
        (fun current statement => statement.onColumn skip name current) current := by
  induction statements generalizing current with
  | nil => rfl
  | cons head rest inductionHypothesis =>
      rw [List.foldl_cons, inductionHypothesis, List.filter_cons]
      by_cases targeted : head.target? = some name
      · simp [targeted]
      · simp [targeted, Statement.onColumn_of_other targeted]

private theorem toList_removeAll_eraseDups (name? : Option String) (names : List String) :
    name?.toList.removeAll names.eraseDups = (name?.toList.removeAll names).eraseDups := by
  cases name? with
  | none => simp [List.removeAll]
  | some name =>
      by_cases member : name ∈ names
      · simp [List.removeAll, member]
      · simp [List.removeAll, member, List.eraseDups_cons]

/-- The names of a table are those that the statements define, without the
skipped ones, in the order in which they first occur. -/
theorem names_ofStatements (skip : SkipLists) (tableName : String)
    (statements : List Statement) :
    (ofStatements skip tableName statements).columns.map Column.name =
      (statements.filterMap (Statement.definedName? skip)).eraseDups := by
  induction statements using List.reverseRecOn with
  | nil => rfl
  | append_singleton statements last inductionHypothesis =>
      have lastName : [last].filterMap (Statement.definedName? skip) =
          (last.definedName? skip).toList := by
        cases defined : last.definedName? skip <;> simp [defined]
      rw [ofStatements_concat, names_apply, inductionHypothesis, List.filterMap_append,
        List.eraseDups_append, lastName, toList_removeAll_eraseDups]

theorem filterMap_definedName? (skip : SkipLists) (statements : List Statement) :
    statements.filterMap (Statement.definedName? skip) =
      ((statements.filterMap Statement.column?).map Column.name).filter
        fun name => !skip.skipsColumn name := by
  induction statements with
  | nil => rfl
  | cons head rest inductionHypothesis =>
      cases defined : head.column? with
      | none =>
          rw [List.filterMap_cons_none (Statement.definedName?_of_undefined defined skip),
            List.filterMap_cons_none defined, inductionHypothesis]
      | some column =>
          have named := Statement.definedName?_of_column? defined skip
          rw [List.filterMap_cons, named, List.filterMap_cons_some defined,
            inductionHypothesis]
          by_cases skipped : skip.skipsColumn column.name = true <;> simp [skipped]

/-! ## The meaning of a run -/

private theorem exists_last_of_mem {test : Statement → Prop} {statements : List Statement}
    (present : ∃ statement ∈ statements, test statement) :
    ∃ before statement after, statements = before ++ statement :: after ∧ test statement ∧
      ∀ later ∈ after, ¬test later := by
  induction statements using List.reverseRecOn with
  | nil => simp at present
  | append_singleton statements last inductionHypothesis =>
      by_cases lastPasses : test last
      · exact ⟨statements, last, [], rfl, lastPasses, by simp⟩
      · have earlier : ∃ statement ∈ statements, test statement := by
          obtain ⟨statement, member, passes⟩ := present
          rcases List.mem_append.1 member with inside | isLast
          · exact ⟨statement, inside, passes⟩
          · rw [List.mem_singleton] at isLast
            exact absurd (isLast ▸ passes) lastPasses
        obtain ⟨before, statement, after, split, passes, none⟩ := inductionHypothesis earlier
        refine ⟨before, statement, after ++ [last], ?_, passes, ?_⟩
        · rw [split, List.append_assoc, List.cons_append]
        · intro later member
          rcases List.mem_append.1 member with inside | isLast
          · exact none later inside
          · rw [List.mem_singleton] at isLast
            exact isLast ▸ lastPasses

/-- What the statements of a token list say about each column of the table:

* a name that is skipped or never defined has no column;
* any other name has the column of its last definition, made unique if one of
  the later statements is a unique constraint on it, and referring, unless it
  does already, to what the first complete foreign constraint among them names;
* the columns stand in the order of their first definitions, each name once;
* statements on other names make no difference to a column. -/
theorem ofStatements_meaning (skip : SkipLists) (tableName : String) (tokens : List Token) :
    (∀ name, (skip.skipsColumn name = true ∨
        ∀ statement ∈ statements tokens, ¬statement.Defines name) →
      (ofStatements skip tableName (statements tokens)).column? name = none) ∧
    (∀ name, skip.skipsColumn name = false →
      (∃ statement ∈ statements tokens, statement.Defines name) →
      ∃ before definition after column,
        statements tokens = before ++ definition :: after ∧
        definition.column? = some column ∧ column.name = name ∧
        (∀ statement ∈ after, ¬statement.Defines name) ∧
        (ofStatements skip tableName (statements tokens)).column? name =
          some { column with
            unique := column.unique || after.any (Statement.makesUnique name)
            foreign := column.foreign.or (after.findSome? (Statement.reference? name)) }) ∧
    ((ofStatements skip tableName (statements tokens)).columns.map Column.name =
        ((((statements tokens).filterMap Statement.column?).map Column.name).filter
          fun name => !skip.skipsColumn name).eraseDups ∧
      ((ofStatements skip tableName (statements tokens)).columns.map Column.name).Nodup) ∧
    (∀ name otherName otherTokens,
      ((statements tokens).filter fun statement => statement.target? == some name) =
        ((statements otherTokens).filter fun statement => statement.target? == some name) →
      (ofStatements skip tableName (statements tokens)).column? name =
        (ofStatements skip otherName (statements otherTokens)).column? name) := by
  refine ⟨?_, ?_, ⟨?_, Table.distinct _⟩, ?_⟩
  · intro name inert
    rw [column?_ofStatements, foldl_onColumn_none inert]
  · intro name kept present
    obtain ⟨before, definition, after, split, ⟨column, defined, named⟩, last⟩ :=
      exists_last_of_mem present
    refine ⟨before, definition, after, column, split, defined, named, last, ?_⟩
    subst named
    rw [split]
    exact column?_of_last_definition defined kept last
  · rw [names_ofStatements, filterMap_definedName?]
  · intro name otherName otherTokens same
    rw [column?_ofStatements, column?_ofStatements, foldl_onColumn_filter, same,
      ← foldl_onColumn_filter]

/-- A column that is defined twice, with constraints on it before and after. -/
theorem ofStatements_meaning_redefined_column :
    let tokens := Token.tokenize "$table->string(\x27a\x27); $table->unique(\x27a\x27);
      $table->integer(\x27a\x27); $table->foreign(\x27a\x27)->references(\x27id\x27)->on(\x27t\x27);"
    (∃ statement ∈ statements tokens, statement.Defines "a") ∧
    (ofStatements .none "posts" (statements tokens)).column? "a" =
      some { name := "a", type := .integer, foreign := some ⟨"t", some "id"⟩ } ∧
    ∃ before definition after column,
      statements tokens = before ++ definition :: after ∧
      definition.column? = some column ∧ column.name = "a" ∧
      (∀ statement ∈ after, ¬statement.Defines "a") ∧
      (ofStatements .none "posts" (statements tokens)).column? "a" =
        some { column with
          unique := column.unique || after.any (Statement.makesUnique "a")
          foreign := column.foreign.or (after.findSome? (Statement.reference? "a")) } := by
  intro tokens
  have evaluated : ((statements tokens).any fun statement =>
        (statement.column?.map Column.name) == some "a") = true ∧
      (ofStatements .none "posts" (statements tokens)).column? "a" =
        some { name := "a", type := .integer, foreign := some ⟨"t", some "id"⟩ } := by
    decide +kernel
  have present : ∃ statement ∈ statements tokens, statement.Defines "a" := by
    obtain ⟨statement, member, named⟩ := List.any_eq_true.1 evaluated.1
    exact ⟨statement, member, Option.map_eq_some_iff.1 (beq_iff_eq.1 named)⟩
  exact ⟨present, evaluated.2, (ofStatements_meaning .none "posts" tokens).2.1 "a" rfl present⟩

end Table

end FormRules
