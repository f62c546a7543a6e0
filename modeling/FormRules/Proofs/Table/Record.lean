import FormRules.Proofs.Json.Record
import FormRules.Proofs.Table.Index
import FormRules.Proofs.Text.Lowercase

/-!
Contract: tables written as JSON and read back.

Owns:
- the normal form of column types, which a type is brought to by its own name;
- the columns and tables that are read back as they are: those of normal types;
- tables that migrations and documents give, all of which are read back.

Does not own: schema documents and the settings they are read under.

A type is written by its name, and names are read without regard to case.  So what
decides is whether the name of a type is in small letters and not that of another type,
and a type that was made from a name is always so.
-/

namespace FormRules

open FormRules.Json (fields? required withDefault nullable listOf strict)

/-! ## Normal types -/

namespace ColumnType

/-- The type is the one that its own name stands for. -/
def IsNormal (type : ColumnType) : Prop :=
  ofMethod type.name = type

private theorem known_named : ∀ entry ∈ known, entry.2.name = entry.1 := by
  decide

@[simp]
theorem name_ofName (name : String) : (ofName name).name = name := by
  unfold ofName
  cases found : known.lookup name with
  | none => rfl
  | some type =>
      obtain ⟨front, back, entries, _⟩ := List.lookup_eq_some_iff.1 found
      exact known_named (name, type) (by simp [entries])

theorem isNormal_ofMethod (method : String) : (ofMethod method).IsNormal := by
  rw [IsNormal, ofMethod, ofMethod, name_ofName, Text.lowercase_lowercase]

/-- An unknown type that a method defines has its name to itself. -/
theorem eq_unknown_of_name {method name : String} {type : ColumnType}
    (unknown : ofMethod method = .unknown name) (same : type.name = name) :
    type = .unknown name := by
  have named : Text.lowercase method = name := by
    rw [← name_ofName (Text.lowercase method)]
    exact congrArg ColumnType.name unknown
  cases known : type.isUnknown with
  | true =>
      cases type with
      | unknown other => rw [← same]; rfl
      | _ => cases known
  | false =>
      have typed := ofName_name_of_known type known
      rw [same] at typed
      rw [← typed, ← unknown, ofMethod, named]

end ColumnType

/-! ## Columns -/

theorem ForeignKey.ofJson?_toJson (key : ForeignKey) : ofJson? key.toJson = some key := by
  have column :=
    Json.nullable_ofOption .string Json.string? nofun (fun _ => rfl) key.column
  simp [ofJson?, toJson, fields?, required, withDefault, Json.string?, List.lookup_cons, column]

namespace Column

/-- The column with its type in normal form. -/
def normalized (column : Column) : Column :=
  { column with type := ColumnType.ofMethod column.type.name }

theorem normalized_eq_iff {column : Column} :
    column.normalized = column ↔ column.type.IsNormal := by
  constructor
  · exact fun same => congrArg Column.type same
  · intro normal
    rw [normalized, show ColumnType.ofMethod column.type.name = column.type from normal]

/-- Everything but the type of a column is read back as it is. -/
theorem ofJson?_toJson (column : Column) : ofJson? column.toJson = some column.normalized := by
  have length := Json.nullable_ofOption
    (fun length : UInt32 => .number (Text.decimal length.toNat)) Json.word32? nofun
    Json.word32?_decimal column.length
  have foreign := Json.nullable_ofOption ForeignKey.toJson ForeignKey.ofJson? nofun
    ForeignKey.ofJson?_toJson column.foreign
  simp [ofJson?, toJson, normalized, fields?, required, withDefault, Json.string?, Json.bool?,
    List.lookup_cons, length, foreign]

theorem isNormal_of_ofJson? {value : Json} {column : Column}
    (read : ofJson? value = some column) : column.type.IsNormal := by
  simp only [ofJson?, bind, Option.bind_eq_some_iff, pure, Option.some_inj] at read
  obtain ⟨_, _, _, _, _, _, _, _, _, _, _, _, _, _, rfl⟩ := read
  exact ColumnType.isNormal_ofMethod _

end Column

/-! ## Tables of normal types -/

namespace Table

/-- Every column is of a type in normal form. -/
def HasNormalTypes (table : Table) : Prop :=
  ∀ column ∈ table.columns, column.type.IsNormal

theorem mem_placeColumn {column placed : Column} {columns : List Column}
    (member : column ∈ placeColumn placed columns) : column = placed ∨ column ∈ columns := by
  induction columns with
  | nil => exact .inl (List.mem_singleton.1 member)
  | cons head rest inductionHypothesis =>
      unfold placeColumn at member
      split at member
      · rcases List.mem_cons.1 member with here | behind
        · exact .inl here
        · exact .inr (List.mem_cons_of_mem head behind)
      · rcases List.mem_cons.1 member with here | behind
        · exact .inr (here ▸ List.mem_cons_self)
        · exact (inductionHypothesis behind).imp_right (List.mem_cons_of_mem head)

theorem HasNormalTypes.foldl_insert {table : Table} {columns : List Column}
    (normal : table.HasNormalTypes) (inserted : ∀ column ∈ columns, column.type.IsNormal) :
    (columns.foldl insert table).HasNormalTypes := by
  induction columns generalizing table with
  | nil => exact normal
  | cons head rest inductionHypothesis =>
      rw [List.forall_mem_cons] at inserted
      refine inductionHypothesis ?_ inserted.2
      intro column member
      rcases mem_placeColumn member with isHead | before
      · rw [isHead]
        exact inserted.1
      · exact normal column before

theorem hasNormalTypes_empty (name : String) : (empty name).HasNormalTypes :=
  fun _ member => absurd member List.not_mem_nil

theorem hasNormalTypes_ofColumns (name : String) {columns : List Column}
    (inserted : ∀ column ∈ columns, column.type.IsNormal) :
    (ofColumns name columns).HasNormalTypes :=
  (hasNormalTypes_empty name).foldl_insert inserted

theorem HasNormalTypes.without {table : Table} (normal : table.HasNormalTypes)
    (skip : SkipLists) : (table.without skip).HasNormalTypes :=
  hasNormalTypes_ofColumns table.name fun column member =>
    normal column (List.mem_of_mem_filter member)

/-- A constraint leaves the type of its column as it is. -/
theorem type_of_annotated? {statement : Statement} {column changed : Column}
    (found : statement.annotated? column = some changed) : changed.type = column.type := by
  unfold Statement.annotated? at found
  split at found
  · cases found
    rfl
  · split at found
    · split at found
      · cases found
        rfl
      · cases found
    · cases found

theorem isNormal_of_column? {statement : Statement} {column : Column}
    (found : statement.column? = some column) : column.type.IsNormal := by
  unfold Statement.column? at found
  split at found
  · cases found
  · obtain ⟨name, _, rfl⟩ := Option.map_eq_some_iff.1 found
    exact ColumnType.isNormal_ofMethod _

/-- A statement inserts a column of a normal type, or one of a type that the table
has already. -/
theorem HasNormalTypes.inserted? {table : Table} (normal : table.HasNormalTypes)
    {skip : SkipLists} {statement : Statement} {column : Column}
    (found : table.inserted? skip statement = some column) : column.type.IsNormal := by
  unfold Table.inserted? at found
  split at found
  · obtain ⟨target, foundTarget, effect⟩ := Option.bind_eq_some_iff.1 found
    obtain ⟨name, _, inTable⟩ := Option.bind_eq_some_iff.1 foundTarget
    rw [type_of_annotated? effect]
    exact normal target (List.mem_of_find?_eq_some inTable)
  · exact isNormal_of_column? (Option.filter_eq_some_iff.1 found).1

theorem HasNormalTypes.apply {table : Table} (normal : table.HasNormalTypes) (skip : SkipLists)
    (statement : Statement) : (table.apply skip statement).HasNormalTypes := by
  rw [apply_eq_foldl]
  exact normal.foldl_insert fun column member => normal.inserted? (Option.mem_toList.1 member)

theorem hasNormalTypes_ofStatements (skip : SkipLists) (name : String)
    (statements : List Statement) : (ofStatements skip name statements).HasNormalTypes := by
  unfold ofStatements
  generalize start : empty name = table
  have normal : table.HasNormalTypes := start ▸ hasNormalTypes_empty name
  clear start
  induction statements generalizing table with
  | nil => exact normal
  | cons head rest inductionHypothesis => exact inductionHypothesis _ (normal.apply skip head)

/-! ## Tables read back -/

theorem ofJson?_toJson (table : Table) :
    ofJson? table.toJson =
      some (ofColumns table.name (table.columns.map Column.normalized)) := by
  have columns : listOf Column.ofJson? (.array (table.columns.map Column.toJson)) =
      some (table.columns.map Column.normalized) := by
    rw [listOf, Json.array?, Option.bind_some, List.mapM_map]
    exact (congrArg (table.columns.mapM ·) (funext Column.ofJson?_toJson)).trans List.mapM_pure
  simp [ofJson?, toJson, fields?, required, withDefault, Json.string?, List.lookup_cons, columns]

/-- The tables that are read back are those of normal types. -/
theorem ofJson?_toJson_eq_some_iff (table : Table) :
    ofJson? table.toJson = some table ↔ table.HasNormalTypes := by
  have distinct : ((table.columns.map Column.normalized).map Column.name).Nodup := by
    rw [List.map_map]
    exact table.distinct
  have kept : table.columns.map Column.normalized = table.columns ↔ table.HasNormalTypes :=
    calc table.columns.map Column.normalized = table.columns
      _ ↔ table.columns.map Column.normalized = table.columns.map id := by rw [List.map_id]
      _ ↔ ∀ column ∈ table.columns, column.normalized = column := List.map_inj_left
      _ ↔ table.HasNormalTypes := forall₂_congr fun _ _ => Column.normalized_eq_iff
  rw [ofJson?_toJson, Option.some_inj, ← kept]
  constructor
  · intro same
    rw [← columns_ofColumns table.name distinct, same]
  · intro columns
    rw [columns]
    exact eq_of_columns (name_ofColumns _ _) (columns_ofColumns table.name table.distinct)

end Table

/-! ## Tables read back from a text -/

section ReadsBack

open FormRules.Json (readsBack_string readsBack_bool readsBack_decimal readsBack_ofOption)

theorem ForeignKey.readsBack_toJson (key : ForeignKey) : key.toJson.ReadsBack := by
  apply Json.readsBack_object
  simp only [List.forall_mem_cons]
  exact ⟨readsBack_string key.table, readsBack_ofOption readsBack_string key.column,
    List.forall_mem_nil _⟩

theorem Column.readsBack_toJson (column : Column) : column.toJson.ReadsBack := by
  apply Json.readsBack_object
  simp only [List.forall_mem_cons]
  exact ⟨readsBack_string column.name, readsBack_string column.type.name,
    readsBack_ofOption (fun length => readsBack_decimal length.toNat) column.length,
    readsBack_bool column.nullable, readsBack_bool column.unique,
    readsBack_ofOption ForeignKey.readsBack_toJson column.foreign,
    List.forall_mem_nil _⟩

theorem Table.readsBack_toJson (table : Table) : table.toJson.ReadsBack := by
  apply Json.readsBack_object
  simp only [List.forall_mem_cons]
  refine ⟨readsBack_string table.name, Json.readsBack_array ?_,
    List.forall_mem_nil _⟩
  rw [List.forall_mem_map]
  exact fun column _ => column.readsBack_toJson

end ReadsBack

/-- The table of a record with its index, which is built anew by the insertions. -/
def IndexedTable.ofJson? (value : Json) : Option IndexedTable :=
  (Table.record? value).map fun record => IndexedTable.ofColumns record.1 record.2

theorem IndexedTable.exists_represents_of_ofJson? {value : Json} {table : Table}
    (read : Table.ofJson? value = some table) :
    ∃ rebuilt, IndexedTable.ofJson? value = some rebuilt ∧ rebuilt.Represents table := by
  rw [Table.ofJson?_eq] at read
  obtain ⟨record, given, rfl⟩ := Option.map_eq_some_iff.1 read
  exact ⟨_, by rw [ofJson?, given, Option.map_some], represents_ofColumns record.1 record.2⟩

namespace Table

/-- Tables that a migration or a document gives, whole or without skipped columns. -/
inductive Origin : Table → Prop where
  | migration {skip : SkipLists} {source : String} {table : Table}
      (extracted : Extraction.ofSource skip source = .table table) : Origin table
  | document {value : Json} {table : Table} (read : ofJson? value = some table) : Origin table
  | skipping {table : Table} (origin : Origin table) (skip : SkipLists) :
      Origin (table.without skip)

theorem Origin.hasNormalTypes {table : Table} (origin : Origin table) : table.HasNormalTypes := by
  induction origin with
  | @migration skip source table extracted =>
      rw [Extraction.ofSource, Extraction.ofTokens] at extracted
      split at extracted
      next => cases extracted
      next name created =>
        split at extracted
        next => cases extracted
        next =>
          cases extracted
          exact hasNormalTypes_ofStatements skip name _
  | @document value table read =>
      rw [ofJson?_eq] at read
      obtain ⟨⟨name, columns⟩, given, rfl⟩ := Option.map_eq_some_iff.1 read
      simp only [record?, bind, Option.bind_eq_some_iff, pure, Option.some_inj] at given
      obtain ⟨fields, _, _, _, _, readColumns, same⟩ := given
      cases same
      apply hasNormalTypes_ofColumns name
      refine Json.of_withDefault (fun columns => ∀ column ∈ columns, column.type.IsNormal)
        readColumns (by simp) ?_
      intro written readList column member
      obtain ⟨_, readColumn⟩ := Json.exists_of_mem_listOf readList member
      exact Column.isNormal_of_ofJson? readColumn
  | skipping _ skip inductionHypothesis => exact inductionHypothesis.without skip

/-- The table is the same after it has been written and read, as a value, as a text in
either form, and with the index of its columns. -/
structure RoundTrips (table : Table) : Prop where
  value : ofJson? table.toJson = some table
  compact : (Json.parse? table.toJson.compact).bind ofJson? = some table
  pretty : (Json.parse? table.toJson.pretty).bind ofJson? = some table
  index : ∀ indexed : IndexedTable, indexed.Represents table →
    ∃ rebuilt : IndexedTable, IndexedTable.ofJson? table.toJson = some rebuilt ∧
      rebuilt.name = indexed.name ∧ rebuilt.columns = indexed.columns ∧
      ∀ name : String, rebuilt.index[name]? = indexed.index[name]?

theorem HasNormalTypes.roundTrips {table : Table} (normal : table.HasNormalTypes) :
    table.RoundTrips := by
  have value := (ofJson?_toJson_eq_some_iff table).2 normal
  have inLines : Json.parse? (table.toJson.pretty ++ "") = some table.toJson :=
    Json.parse?_pretty_append table.readsBack_toJson (by simp)
  rw [String.append_empty] at inLines
  refine ⟨value, ?_, ?_, ?_⟩
  · rw [Json.parse?_compact table.readsBack_toJson, Option.bind_some, value]
  · rw [inLines, Option.bind_some, value]
  · intro indexed agree
    obtain ⟨rebuilt, read, same⟩ := IndexedTable.exists_represents_of_ofJson? value
    exact ⟨rebuilt, read, same.name_eq.trans agree.name_eq.symm,
      same.columns_eq.trans agree.columns_eq.symm,
      fun name => (same.index_eq name).trans (agree.index_eq name).symm⟩

/-- A type is brought to its normal form by its own name, and an unknown type has a name
that no other type has.  So every table that a migration or a document gives is the same
after it has been written and read. -/
theorem roundTrips_of_origin :
    (∀ method, ColumnType.ofMethod (ColumnType.ofMethod method).name =
        ColumnType.ofMethod method ∧
      ∀ name (type : ColumnType), ColumnType.ofMethod method = .unknown name → type.name = name →
        type = .unknown name) ∧
    ∀ table, Origin table → table.RoundTrips :=
  ⟨fun method => ⟨ColumnType.isNormal_ofMethod method,
      fun _ _ => ColumnType.eq_unknown_of_name⟩,
    fun _ origin => origin.hasNormalTypes.roundTrips⟩

/-- Columns of types in mixed case: a known one, one with a dotted capital, and one that
ends in a capital sigma. -/
theorem roundTrips_of_origin_mixed_case :
    let source := "Schema::create('users', fn ($table) => $table->bigINTEGER('id')); " ++
      "$table->İD('name'); $table->ΤΈΛΟΣ('note')->nullable();"
    let table := ofColumns "users"
      [{ name := "id", type := .bigInteger }, { name := "name", type := .unknown "i\u0307d" },
       { name := "note", type := .unknown "τέλος", nullable := true }]
    Extraction.ofSource .none source = .table table ∧ table.RoundTrips := by
  intro source table
  have extracted : Extraction.ofSource .none source = .table table := by decide +kernel
  exact ⟨extracted, roundTrips_of_origin.2 table (.migration extracted)⟩

end Table

end FormRules
