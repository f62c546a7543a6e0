import FormRules.Proofs.Generation.Run
import FormRules.Proofs.Migration.Written
import FormRules.Proofs.Table

/-!
Contract: the agreement of the two ways to describe a table, by a migration and
in a schema document.

Owns:
- the extraction of a table that is written out as a migration;
- the files that the generator renders for it either way.

Does not own: migrations that are not the written form of a table.
-/

namespace FormRules

open FormRules.Text

/-! ## Columns -/

namespace Table

/-- The statement of a column puts the column into the table, unless it is
skipped. -/
theorem apply_statement (skip : SkipLists) (table : Table) {column : Column}
    (expressible : column.isExpressible = true) :
    table.apply skip column.statement =
      if !skip.skipsColumn column.name then table.insert column else table := by
  have defined := Column.column?_statement expressible
  have plain := Column.isConstraint_statement expressible
  simp only [apply, plain, defined, Bool.false_eq_true, if_false]
  cases skip.skipsColumn column.name <;> rfl

theorem ofStatements_statement (skip : SkipLists) (name : String) {columns : List Column}
    (expressible : ∀ column ∈ columns, column.isExpressible = true) :
    ofStatements skip name (columns.map Column.statement) =
      ofColumns name (columns.filter fun column => !skip.skipsColumn column.name) := by
  rw [ofStatements, ofColumns, List.foldl_filter, List.foldl_map]
  generalize empty name = table
  induction columns generalizing table with
  | nil => rfl
  | cons first more inductionHypothesis =>
      have moreExpressible : ∀ column ∈ more, column.isExpressible = true :=
        fun column member => expressible column (List.mem_cons_of_mem first member)
      rw [List.foldl_cons, List.foldl_cons,
        apply_statement skip table (expressible first List.mem_cons_self),
        inductionHypothesis moreExpressible]

end Table

/-! ## Tables -/

/-- A written table is extracted as the table is taken from a document. -/
theorem Extraction.ofSource_migrationText (skip : SkipLists) {table : Table}
    (expressible : table.isExpressible = true) :
    Extraction.ofSource skip table.migrationText = Extraction.ofTable skip table := by
  have columns := List.all_eq_true.1 expressible
  have tokens : (Token.tokenize table.migrationText).map (Token.relabel id fun _ => 0) =
      (Table.openingKinds table.name).map Token.bare ++
        ((table.columns.flatMap fun column => column.statement.kinds).map Token.bare ++
          Table.closingKinds.map Token.bare) := by
    rw [map_relabel_id, Token.map_kind_tokenize, Table.kinds_migrationText expressible,
      List.map_append, List.map_append]
  -- The tokens are compared without their lines, which an extraction ignores.
  have unlined : ofTokens skip ((Token.tokenize table.migrationText).map
        (Token.relabel id fun _ => 0)) =
      ofTokens skip (Token.tokenize table.migrationText) :=
    ofTokens_relabel (fun _ => 0) (fun _ => rfl) (fun _ => rfl) skip _
  rw [ofSource, ← unlined, tokens, ofTokens, Table.createdTable?_openingKinds,
    Table.statements_openingKinds, Table.statements_definitions, Table.statements_closingKinds,
    List.append_nil]
  simp only [Table.ofStatements_statement skip table.name columns]
  rfl

/-! ## Files -/

/-- The file planned for a written table is the one planned for the table. -/
theorem GeneratedFile.ofSource?_migrationText (settings : Settings) (tree : FileTree)
    {table : Table} (expressible : table.isExpressible = true) :
    GeneratedFile.ofSource? settings table.migrationText =
      ((Source.described table).plan settings tree).file? := by
  rw [ofSource?, Extraction.ofSource_migrationText settings.skip expressible]
  exact Extraction.file?_plan settings "" table.name (Extraction.ofTable settings.skip table)

theorem Source.failure?_plan_described (settings : Settings) (tree : FileTree) (table : Table) :
    ((Source.described table).plan settings tree).failure? = none := by
  rw [plan, extraction]
  cases Extraction.ofTable settings.skip table <;> rfl

namespace Schema

/-- A table that can be written as a migration is the same table either way:
the migration is extracted as the document that holds the table is, which
leaves the table without its skipped columns or skips it, and under any
settings both have the same file.  A run over the document reports exactly that
file unless it fails, and a dry run does not fail. -/
theorem extractions_migrationText (table : Table) (skip : SkipLists)
    (expressible : table.isExpressible = true) :
    extractions { tables := [table] } skip = [Extraction.ofSource skip table.migrationText] ∧
    Extraction.ofSource skip table.migrationText =
      (if skip.skipsTable table.name then .skippedTable table.name
      else .table (table.without skip)) ∧
    (table.without skip).columns =
      table.columns.filter (fun column => !skip.skipsColumn column.name) ∧
    ∀ (settings : Settings) (tree : FileTree),
      ((Source.described table).plan settings tree).file? =
        GeneratedFile.ofSource? settings table.migrationText ∧
      (∀ report, (Generation.ofSchema settings { tables := [table] } tree).1 = .ok report →
        report.failures = [] →
          report.files = (GeneratedFile.ofSource? settings table.migrationText).toList) ∧
      (settings.dryRun = true →
        ∃ report, (Generation.ofSchema settings { tables := [table] } tree).1 = .ok report ∧
          report.failures = []) := by
  have agreement := Extraction.ofSource_migrationText skip expressible
  refine ⟨?_, agreement, table.columns_without skip, ?_⟩
  · rw [extractions, List.map_singleton, agreement]
  · intro settings tree
    have file := GeneratedFile.ofSource?_migrationText settings tree expressible
    refine ⟨file.symm, ?_, ?_⟩
    · intro report concluded noFailure
      rw [file]
      exact Generation.files_of_singleton concluded noFailure
    · intro dry
      have planned := Source.failure?_plan_described settings tree table
      refine ⟨_, Generation.conclude_of_dryRun dry planned, ?_⟩
      simp [Report.ofOutcomes, planned]

/-- Names that close literals, open comments and continue the chain of calls. -/
theorem extractions_migrationText_hostile_names :
    let table := Table.ofColumns "o\x27rders\\"
      [{ name := "a\x27); $table->text(\x27b", type := .string, length := some 255,
         unique := true, foreign := some ⟨"\\\x27 // #", some "/*\n"⟩ },
       { name := "\\", type := .unknown "uuid", nullable := true }]
    let skip : SkipLists := { columns := ["\\"] }
    table.isExpressible = true ∧
    extractions { tables := [table] } skip = [Extraction.ofSource skip table.migrationText] ∧
    Extraction.ofSource skip table.migrationText = .table (table.without skip) ∧
    (table.without skip).columns.map Column.name = ["a\x27); $table->text(\x27b"] := by
  intro table skip
  have expressible : table.isExpressible = true := by decide +kernel
  have kept : ¬skip.skipsTable table.name = true := by decide +kernel
  obtain ⟨document, migration, columns, _⟩ :=
    extractions_migrationText table skip expressible
  refine ⟨expressible, document, migration.trans (if_neg kept), ?_⟩
  rw [columns]
  decide +kernel

end Schema

end FormRules
