import FormRules.Proofs.Extraction.Definition
import FormRules.Schema

/-!
Contract: the skipping of columns and tables, during an extraction and after
it.

Owns:
- the simulation of a run that skips by a run that does not;
- the agreement of a migration with the described table it comes to.

Does not own: the effect of a single statement.
-/

namespace FormRules

namespace Table

/-- A run that skips columns is a run that skips none, with the skipped columns
left out at its end. -/
theorem without_ofStatements (skip : SkipLists) (name : String) (statements : List Statement) :
    (ofStatements .none name statements).without skip = ofStatements skip name statements := by
  induction statements using List.reverseRecOn with
  | nil => rfl
  | append_singleton statements last inductionHypothesis =>
      rw [ofStatements_concat, ofStatements_concat, without_apply, inductionHypothesis]

end Table

namespace Extraction

/-- The extraction of a source is that of the table which it defines when
nothing is skipped. -/
theorem ofTable_ofStatements {skip : SkipLists} {tokens : List Token} {name : String}
    (created : createdTable? tokens = some name) :
    ofTable skip (Table.ofStatements .none name (statements tokens)) = ofTokens skip tokens := by
  simp only [ofTable, ofTokens, created, Table.name_ofStatements, Table.without_ofStatements]

end Extraction

namespace Schema

/-- Skipping while a migration is read equals skipping in the document that
describes its table: the extractions are the same, the columns kept are those
that are not skipped with their order and attributes, and no statement brings a
skipped column in. -/
theorem extractions_ofStatements (skip : SkipLists) (source name : String)
    (created : createdTable? (Token.tokenize source) = some name) :
    extractions { tables := [Table.ofStatements .none name (statements (Token.tokenize source))] }
        skip =
      [Extraction.ofSource skip source] ∧
    (Table.ofStatements skip name (statements (Token.tokenize source))).columns =
      (Table.ofStatements .none name (statements (Token.tokenize source))).columns.filter
        (fun column => !skip.skipsColumn column.name) ∧
    ∀ column ∈ (Table.ofStatements skip name (statements (Token.tokenize source))).columns,
      skip.skipsColumn column.name = false := by
  have columns : (Table.ofStatements skip name (statements (Token.tokenize source))).columns =
      (Table.ofStatements .none name (statements (Token.tokenize source))).columns.filter
        (fun column => !skip.skipsColumn column.name) := by
    rw [← Table.without_ofStatements, Table.columns_without]
  refine ⟨?_, columns, ?_⟩
  · rw [extractions, List.map_singleton, Extraction.ofTable_ofStatements created]
    rfl
  · intro column member
    rw [columns, List.mem_filter] at member
    simpa using member.2

/-- A skipped column that is defined twice and constrained in between. -/
theorem extractions_ofStatements_redefined_column :
    let source := "Schema::create('posts', f); $table->string('id'); $table->unique('id');
      $table->text('body'); $table->integer('id'); $table->unique('body');"
    let skip : SkipLists := {}
    createdTable? (Token.tokenize source) = some "posts" ∧
    extractions { tables := [Table.ofStatements .none "posts"
        (statements (Token.tokenize source))] } skip =
      [Extraction.ofSource skip source] ∧
    (Table.ofStatements skip "posts" (statements (Token.tokenize source))).columns =
      (Table.ofStatements .none "posts" (statements (Token.tokenize source))).columns.filter
        (fun column => !skip.skipsColumn column.name) ∧
    ∀ column ∈ (Table.ofStatements skip "posts" (statements (Token.tokenize source))).columns,
      skip.skipsColumn column.name = false := by
  intro source skip
  have created : createdTable? (Token.tokenize source) = some "posts" := by decide +kernel
  exact ⟨created, extractions_ofStatements skip source "posts" created⟩

end Schema

end FormRules
