import FormRules.Proofs.Extraction.Definition
import FormRules.Proofs.Statement.Seam
import FormRules.Proofs.Token.Seam

/-!
Contract: the extraction of a source that goes on below its create construct.

Owns:
- the statements of a source and of one below it, set off by a semicolon;
- what later statements leave of a table;
- the extraction of such a source, from that of its first part.

Does not own: the construct in which a statement stands; every blueprint
statement of a source counts, whichever construct that is.
-/

namespace FormRules

open FormRules.Text

/-! ## Statements below a source -/

theorem Token.lowered_eq_relabel (count : Nat) :
    Token.lowered count = Token.relabel id (· + count) := by
  funext token
  obtain ⟨kind, line⟩ := token
  cases kind <;> rfl

theorem Token.tokenize_append_semicolon {first : String} (closed : Token.IsClosed first.toList)
    (second : String) :
    ∃ line count,
      Token.tokenize (first ++ "\n;\n" ++ second) =
        Token.tokenize first ++ ⟨.semicolon, line⟩ ::
          (Token.tokenize second).map (Token.lowered count) := by
  have semicolonClosed : Token.IsClosed ";".toList := by decide +kernel
  have semicolon : Token.tokenize ";" = [⟨.semicolon, 1⟩] := by decide +kernel
  have lines : "\n;\n" = "\n" ++ (";" ++ "\n") := by decide +kernel
  have split : first ++ "\n;\n" ++ second = first ++ "\n" ++ (";" ++ "\n" ++ second) := by
    rw [lines]
    simp only [String.append_assoc]
  have below := Token.tokenize_append_line semicolonClosed second
  have twice : ∀ upper lower,
      Token.lowered upper ∘ Token.lowered lower = Token.lowered (lower + upper) := by
    intro upper lower
    funext token
    simp only [Function.comp_apply, Token.lowered, Nat.add_assoc]
  refine ⟨1 + (1 + lineFeeds first.toList),
    1 + lineFeeds ";".toList + (1 + lineFeeds first.toList), ?_⟩
  rw [split, Token.tokenize_append_line closed, below, semicolon, List.map_append, List.map_map,
    twice]
  rfl

section Below

variable {first : String} (closed : Token.IsClosed first.toList)
  (balanced : Balanced (Token.tokenize first)) (second : String)

include closed

theorem createdTable?_below {name : String}
    (created : createdTable? (Token.tokenize first) = some name) :
    createdTable? (Token.tokenize (first ++ "\n;\n" ++ second)) = some name := by
  obtain ⟨line, count, tokens⟩ := Token.tokenize_append_semicolon closed second
  rw [tokens]
  exact createdTable?_append created _

include balanced

theorem ofStatements_below (skip : SkipLists) (name : String) :
    Table.ofStatements skip name
        (statements (Token.tokenize (first ++ "\n;\n" ++ second))) =
      (statements (Token.tokenize second)).foldl (Table.apply skip)
        (Table.ofStatements skip name (statements (Token.tokenize first))) := by
  obtain ⟨line, count, tokens⟩ := Token.tokenize_append_semicolon closed second
  have sameFold : ∀ name, asciiFold (id name) = asciiFold name := fun _ => rfl
  have sameType : ∀ name, ColumnType.ofMethod (id name) = ColumnType.ofMethod name := fun _ => rfl
  have lines : ∀ table statement,
      Table.apply skip table (Statement.relabel id (· + count) statement) =
        Table.apply skip table statement :=
    Table.apply_relabel (· + count) sameFold sameType skip
  rw [tokens, Token.lowered_eq_relabel, statements_append_semicolon balanced, statements_relabel,
    Table.ofStatements, List.foldl_append, List.foldl_map]
  simp only [lines, Table.ofStatements]

end Below

/-! ## A table and later statements -/

namespace Table

theorem names_foldl_apply (skip : SkipLists) (table : Table) (later : List Statement) :
    table.columns.map Column.name <+:
      (later.foldl (apply skip) table).columns.map Column.name := by
  induction later generalizing table with
  | nil => exact List.prefix_refl _
  | cons head rest inductionHypothesis =>
      have step : table.columns.map Column.name <+:
          (table.apply skip head).columns.map Column.name := by
        rw [names_apply]
        exact List.prefix_append _ _
      exact step.trans (inductionHypothesis (table.apply skip head))

theorem column?_foldl_apply_of_other {skip : SkipLists} {name : String} {later : List Statement}
    (other : ∀ statement ∈ later, statement.target? ≠ some name) (table : Table) :
    (later.foldl (apply skip) table).column? name = table.column? name := by
  have none : (later.filter fun statement => statement.target? == some name) = [] := by
    rw [List.filter_eq_nil_iff]
    intro statement member
    simpa using other statement member
  rw [column?_foldl_apply, foldl_onColumn_filter, none, List.foldl_nil]

/-- The statement neither defines a column that is kept nor constrains a column of
the table. -/
def IsInert (skip : SkipLists) (table : Table) (statement : Statement) : Prop :=
  statement.definedName? skip = none ∧
    (statement.isConstraint = true →
      ∀ column ∈ table.columns, statement.target? ≠ some column.name)

theorem apply_of_isInert {skip : SkipLists} {table : Table} {statement : Statement}
    (inert : IsInert skip table statement) : table.apply skip statement = table := by
  obtain ⟨undefined, untouched⟩ := inert
  rcases table.apply_cases skip statement with
    ⟨constraint, _, same⟩ | ⟨column, _, defined, same⟩ | ⟨_, _, _, same⟩
  · rw [same]
    apply annotate_of_unchanged
    have noColumn : statement.target?.bind table.column? = none := by
      rw [Option.bind_eq_none_iff]
      intro name targeted
      rw [column?, List.find?_eq_none]
      intro column member isNamed
      rw [beq_iff_eq] at isNamed
      exact untouched constraint column member (isNamed ▸ targeted)
    rw [noColumn, Option.bind_none]
  · rw [Statement.definedName?_of_column? defined] at undefined
    have skipped : skip.skipsColumn column.name = true := by
      by_contra kept
      rw [if_neg kept] at undefined
      cases undefined
    rw [same, if_pos skipped]
  · exact same

theorem foldl_apply_of_isInert {skip : SkipLists} {table : Table} {later : List Statement}
    (inert : ∀ statement ∈ later, IsInert skip table statement) :
    later.foldl (apply skip) table = table := by
  induction later with
  | nil => rfl
  | cons head rest inductionHypothesis =>
      rw [List.foldl_cons, apply_of_isInert (inert head List.mem_cons_self)]
      apply inductionHypothesis
      intro statement member
      exact inert statement (List.mem_cons_of_mem head member)

end Table

/-! ## The extraction -/

namespace Extraction

theorem ofSource_of_skipsTable {skip : SkipLists} {source name : String}
    (created : createdTable? (Token.tokenize source) = some name)
    (skipped : skip.skipsTable name = true) : ofSource skip source = .skippedTable name := by
  simp only [ofSource, ofTokens, created, skipped, if_true]

theorem ofSource_of_createdTable? {skip : SkipLists} {source name : String}
    (created : createdTable? (Token.tokenize source) = some name)
    (kept : skip.skipsTable name = false) :
    ofSource skip source =
      .table (Table.ofStatements skip name (statements (Token.tokenize source))) := by
  simp only [ofSource, ofTokens, created, kept, Bool.false_eq_true, if_false]

/-- The first create construct of a source names the table and decides whether it
is skipped, whatever is written below.  Statements below change nothing if all of
them are inert.  Otherwise they count as if they stood in the construct itself,
whichever one they stand in; the columns of the table still stay in front, in
their order, and a column that no statement below names stays as it is. -/
theorem ofSource_below {first name : String} (closed : Token.IsClosed first.toList)
    (balanced : Balanced (Token.tokenize first))
    (created : createdTable? (Token.tokenize first) = some name) (second : String)
    (skip : SkipLists) :
    ((∀ table, ofSource skip first = .table table →
        ∀ statement ∈ statements (Token.tokenize second), Table.IsInert skip table statement) →
      ofSource skip (first ++ "\n;\n" ++ second) = ofSource skip first) ∧
    (skip.skipsTable name = true →
      ofSource skip first = .skippedTable name ∧
      ofSource skip (first ++ "\n;\n" ++ second) = .skippedTable name) ∧
    (skip.skipsTable name = false → ∃ table extended,
      ofSource skip first = .table table ∧ table.name = name ∧
      ofSource skip (first ++ "\n;\n" ++ second) = .table extended ∧ extended.name = name ∧
      extended = (statements (Token.tokenize second)).foldl (Table.apply skip) table ∧
      table.columns.map Column.name <+: extended.columns.map Column.name ∧
      ∀ column, (∀ statement ∈ statements (Token.tokenize second),
          statement.target? ≠ some column) →
        extended.column? column = table.column? column) := by
  have createdBelow := createdTable?_below closed second created
  have skippedBoth : skip.skipsTable name = true →
      ofSource skip first = .skippedTable name ∧
      ofSource skip (first ++ "\n;\n" ++ second) = .skippedTable name := fun skipped =>
    ⟨ofSource_of_skipsTable created skipped, ofSource_of_skipsTable createdBelow skipped⟩
  refine ⟨?unchanged, skippedBoth, ?carriedOn⟩
  case unchanged =>
    intro inert
    cases skipped : skip.skipsTable name with
    | true =>
        obtain ⟨above, below⟩ := skippedBoth skipped
        rw [above, below]
    | false =>
        have above := ofSource_of_createdTable? created skipped
        rw [ofSource_of_createdTable? createdBelow skipped, above,
          ofStatements_below closed balanced, Table.foldl_apply_of_isInert (inert _ above)]
  case carriedOn =>
    intro kept
    have extracted := ofSource_of_createdTable? createdBelow kept
    rw [ofStatements_below closed balanced] at extracted
    refine ⟨_, _, ofSource_of_createdTable? created kept, Table.name_ofStatements _ _ _,
      extracted, ?_, rfl, Table.names_foldl_apply _ _ _, ?_⟩
    · rw [Table.name_foldl_apply, Table.name_ofStatements]
    · intro column other
      exact Table.column?_foldl_apply_of_other other _

/-- A key on another column and a call without columns below leave the table as it
is; an alteration constrains one of its columns and brings one more in. -/
theorem ofSource_below_alteration :
    let first := "Schema::create(\x27users\x27, fn ($table) =>
      $table->string(\x27email\x27)); // isn\x27t unique"
    let harmless := "Schema::create(\x27posts\x27, fn ($table) => [
      $table->unique(\x27slug\x27), $table->timestamps()]);"
    let altering := "Schema::table(\x27users\x27, fn ($table) => [
      $table->unique(\x27email\x27), $table->text(\x27bio\x27)]);"
    let skip : SkipLists := {}
    let withUsers := skip.withTable "users"
    (Token.IsClosed first.toList ∧ Balanced (Token.tokenize first) ∧
      createdTable? (Token.tokenize first) = some "users") ∧
    ofSource skip (first ++ "\n;\n" ++ harmless) = ofSource skip first ∧
    (ofSource withUsers first = .skippedTable "users" ∧
      ofSource withUsers (first ++ "\n;\n" ++ altering) = .skippedTable "users") ∧
    ∃ table extended,
      ofSource skip first = .table table ∧ table.name = "users" ∧
      ofSource skip (first ++ "\n;\n" ++ altering) = .table extended ∧ extended.name = "users" ∧
      extended = (statements (Token.tokenize altering)).foldl (Table.apply skip) table ∧
      table.columns.map Column.name <+: extended.columns.map Column.name ∧
      ∀ column, (∀ statement ∈ statements (Token.tokenize altering),
          statement.target? ≠ some column) →
        extended.column? column = table.column? column := by
  intro first harmless altering skip withUsers
  obtain ⟨closed, balanced, created, kept, hidden⟩ :
      Token.IsClosed first.toList ∧ Balanced (Token.tokenize first) ∧
        createdTable? (Token.tokenize first) = some "users" ∧
        skip.skipsTable "users" = false ∧ withUsers.skipsTable "users" = true := by
    decide +kernel
  let users : Table := ⟨"users", [⟨"email", .string, none, false, false, none⟩], by decide⟩
  obtain ⟨extracted, apart⟩ : ofSource skip first = .table users ∧
      ∀ statement ∈ statements (Token.tokenize harmless),
        statement.definedName? skip = none ∧ statement.target? ≠ some "email" := by
    decide +kernel
  have inert : ∀ table, ofSource skip first = .table table →
      ∀ statement ∈ statements (Token.tokenize harmless),
        Table.IsInert skip table statement := by
    intro table isTable statement member
    rw [extracted] at isTable
    cases isTable
    obtain ⟨undefined, elsewhere⟩ := apart statement member
    refine ⟨undefined, ?_⟩
    intro _ column among
    rw [List.mem_singleton.1 among]
    exact elsewhere
  exact ⟨⟨closed, balanced, created⟩,
    (ofSource_below closed balanced created harmless skip).1 inert,
    (ofSource_below closed balanced created altering withUsers).2.1 hidden,
    (ofSource_below closed balanced created altering skip).2.2 kept⟩

/-- A column of another table, altered below, is a column of the created table. -/
theorem ofSource_below_other_table :
    let first := "Schema::create(\x27users\x27, fn ($table) => $table->string(\x27email\x27));"
    let second := "Schema::table(\x27posts\x27, fn ($table) => $table->string(\x27title\x27));"
    Token.IsClosed first.toList ∧ Balanced (Token.tokenize first) ∧
    createdTable? (Token.tokenize first) = some "users" ∧
    ofSource .none (first ++ "\n;\n" ++ second) ≠ ofSource .none first := by
  decide +kernel

end Extraction

end FormRules
