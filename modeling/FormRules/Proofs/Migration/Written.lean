import FormRules.Extraction
import FormRules.Proofs.Statement.Print
import FormRules.Proofs.Text.Case
import FormRules.Proofs.Text.Decimal

/-!
Contract: tables written out as migrations.

Owns:
- the text of the migration that creates a table, a line for each column;
- which tables can be written so;
- the tokens of the text, and the statements that they are parsed into;
- the column that each of the statements defines.

Does not own: the table that comes of the statements.
-/

namespace FormRules

open FormRules.Text

/-! ## Texts -/

/-- The line of a column: its type and name, its length and its attributes. -/
def Column.definitionText (column : Column) : String :=
  "$table->" ++ column.type.name ++ "(" ++ singleQuoted column.name ++
    (match column.length with
    | some length => ", " ++ decimal length.toNat
    | none => "") ++ ")" ++
    (if column.nullable then "->nullable()" else "") ++
    (if column.unique then "->unique()" else "") ++
    (match column.foreign with
    | some ⟨table, some target⟩ =>
        "->foreign(" ++ singleQuoted table ++ ")->references(" ++ singleQuoted target ++ ")"
    | some ⟨table, none⟩ => "->foreign(" ++ singleQuoted table ++ ")"
    | none => "") ++ ";"

/-- The migration that creates a table. -/
def Table.migrationText (table : Table) : String :=
  "Schema::create(" ++ singleQuoted table.name ++ ", function (Blueprint $table) \x7b\n" ++
    String.join (table.columns.map fun column => column.definitionText ++ "\n") ++ "\x7d);"

/-! ## Tables that can be written -/

/-- A type that is found again under its name: a known type, or another name
in small ASCII letters that is not the name of a constraint. -/
def ColumnType.isExpressible : ColumnType → Bool
  | .unknown name =>
      isIdentifier name && name.toList.all isSmall &&
        !(known.map Prod.fst).contains name && !constraintMethods.contains name
  | _ => true

/-- Only a column of type `string` has a length to be written. -/
def Column.isExpressible (column : Column) : Bool :=
  column.type.isExpressible && (column.length.isNone || column.type == .string)

def Table.isExpressible (table : Table) : Bool :=
  table.columns.all Column.isExpressible

namespace ColumnType

theorem isSmall_name {type : ColumnType} (expressible : type.isExpressible = true) :
    ∀ character ∈ type.name.toList, isSmall character = true := by
  cases type with
  | unknown name =>
      simp only [isExpressible, Bool.and_eq_true, List.all_eq_true] at expressible
      exact expressible.1.1.2
  | _ => exact List.all_eq_true.1 (by decide)

theorem isIdentifier_name {type : ColumnType} (expressible : type.isExpressible = true) :
    isIdentifier type.name = true := by
  cases type with
  | unknown name =>
      simp only [isExpressible, Bool.and_eq_true] at expressible
      exact expressible.1.1.1
  | _ => decide

theorem name_notMem_constraintMethods {type : ColumnType}
    (expressible : type.isExpressible = true) :
    type.name ∉ constraintMethods := by
  cases type with
  | unknown name =>
      simp only [isExpressible, Bool.and_eq_true, Bool.not_eq_true', List.contains_eq_mem,
        decide_eq_false_iff_not] at expressible
      exact expressible.2
  | _ => decide

/-- The method that a type is written as defines a column of the type. -/
theorem ofMethod_name {type : ColumnType} (expressible : type.isExpressible = true) :
    ofMethod type.name = type := by
  rw [ofMethod, lowercase_of_small (isSmall_name expressible)]
  cases type with
  | unknown name =>
      simp only [isExpressible, Bool.and_eq_true, Bool.not_eq_true', List.contains_eq_mem,
        decide_eq_false_iff_not] at expressible
      have absent : known.lookup name = none := by
        rw [List.lookup_eq_none_iff]
        intro entry member
        rw [bne_iff_ne]
        intro same
        exact expressible.1.2 (List.mem_map.2 ⟨entry, member, same.symm⟩)
      change (known.lookup name).getD (.unknown name) = _
      rw [absent, Option.getD_none]
  | _ => rfl

end ColumnType

/-! ## Statements -/

namespace Column

/-- The calls that give a column its attributes. -/
def modifiers (column : Column) : List Call :=
  (if column.nullable then [⟨"nullable", [], 0⟩] else []) ++
    (if column.unique then [⟨"unique", [], 0⟩] else []) ++
    match column.foreign with
    | some ⟨table, some target⟩ =>
        [⟨"foreign", [.text table], 0⟩, ⟨"references", [.text target], 0⟩]
    | some ⟨table, none⟩ => [⟨"foreign", [.text table], 0⟩]
    | none => []

/-- The statement that defines a column. -/
def statement (column : Column) : Statement where
  call := {
    name := column.type.name
    arguments := .text column.name ::
      column.length.toList.map fun length => .number (decimal length.toNat)
    line := 0 }
  modifiers := column.modifiers

theorem written_statement (column : Column) :
    column.statement.written = column.definitionText := by
  obtain ⟨name, type, length, nullable, unique, foreign⟩ := column
  have modifiers : String.join
      ((modifiers ⟨name, type, length, nullable, unique, foreign⟩).map fun modifier =>
        "->" ++ modifier.written) =
      (if nullable then "->nullable()" else "") ++ (if unique then "->unique()" else "") ++
        (match foreign with
        | some ⟨table, some target⟩ =>
            "->foreign(" ++ singleQuoted table ++ ")->references(" ++ singleQuoted target ++ ")"
        | some ⟨table, none⟩ => "->foreign(" ++ singleQuoted table ++ ")"
        | none => "") := by
    rw [← String.toList_inj]
    rcases foreign with _ | ⟨table, _ | target⟩ <;> cases nullable <;> cases unique <;>
      simp [Column.modifiers, Call.written, Argument.written]
  unfold definitionText
  rw [Statement.written, statement, modifiers, Call.written]
  cases length <;> simp [Argument.written, String.append_assoc]

theorem names_of_modifiers (column : Column) :
    ∀ modifier ∈ column.modifiers,
      modifier.name ∈ ["nullable", "unique", "foreign", "references"] := by
  obtain ⟨name, type, length, nullable, unique, foreign⟩ := column
  rcases foreign with _ | ⟨table, _ | target⟩ <;> cases nullable <;> cases unique <;>
    simp [modifiers]

theorem writable_modifiers (column : Column) :
    ∀ modifier ∈ column.modifiers, modifier.Writable := by
  intro modifier member
  have identifiers : ∀ name ∈ ["nullable", "unique", "foreign", "references"],
      isIdentifier name = true := by
    decide
  refine ⟨identifiers modifier.name (column.names_of_modifiers modifier member), ?_⟩
  revert modifier
  obtain ⟨name, type, length, nullable, unique, foreign⟩ := column
  rcases foreign with _ | ⟨table, _ | target⟩ <;> cases nullable <;> cases unique <;>
    simp [modifiers, Argument.Writable]

theorem writable_statement {column : Column} (expressible : column.isExpressible = true) :
    column.statement.Writable := by
  rw [isExpressible, Bool.and_eq_true] at expressible
  refine ⟨⟨ColumnType.isIdentifier_name expressible.1, ?_⟩, column.writable_modifiers⟩
  intro argument member
  rcases List.mem_cons.1 member with named | measured
  · rw [named]
    trivial
  · obtain ⟨length, _, same⟩ := List.mem_map.1 measured
    rw [← same]
    exact ⟨(decimal length.toNat).toList, toList_decimal_ne_nil _,
      fun _ digit => isDigit_of_mem_decimal digit, .inl rfl⟩

theorem unlined_statement (column : Column) : column.statement.unlined = column.statement := by
  obtain ⟨name, type, length, nullable, unique, foreign⟩ := column
  have same : Call.relabel id (fun _ => 0) = fun call => { call with line := 0 } :=
    funext Call.relabel_id
  rw [Statement.unlined, Statement.relabel, same]
  rcases foreign with _ | ⟨table, _ | target⟩ <;> cases nullable <;> cases unique <;> rfl

/-! ## Columns -/

theorem isConstraint_statement {column : Column} (expressible : column.isExpressible = true) :
    column.statement.isConstraint = false := by
  rw [isExpressible, Bool.and_eq_true] at expressible
  rw [Statement.isConstraint, List.any_eq_false]
  intro method member named
  have methodSmall : ∀ character ∈ method.toList, isSmall character = true := by
    have allSmall : ∀ method ∈ constraintMethods, method.toList.all isSmall = true := by decide
    exact List.all_eq_true.1 (allSmall method member)
  have same : column.type.name = method :=
    (sameIgnoringCase_of_small (ColumnType.isSmall_name expressible.1) methodSmall).1 named
  exact ColumnType.name_notMem_constraintMethods expressible.1 (same ▸ member)

theorem length?_statement (column : Column) : column.statement.length? = column.length := by
  have noModifier : column.modifiers.filter (fun modifier =>
      modifier.isNamed "length" || modifier.isNamed "maxLength") = [] := by
    have otherNames : ∀ name ∈ ["nullable", "unique", "foreign", "references"],
        ¬(sameIgnoringCase name "length" || sameIgnoringCase name "maxLength") = true := by
      decide
    rw [List.filter_eq_nil_iff]
    intro modifier member
    exact otherNames modifier.name (column.names_of_modifiers modifier member)
  change ((column.modifiers.filter _).findSome? _).or _ = _
  rw [noModifier, List.findSome?_nil, Option.none_or]
  cases measured : column.length with
  | none => simp [statement, measured, Call.word32?, Call.named?, Call.word32At?]
  | some length =>
      have read := readWord32?_decimal length
      simp [statement, measured, Call.word32?, Call.named?, Call.word32At?, Argument.word32?, read]

theorem attributes_statement (column : Column) :
    column.statement.nullable = column.nullable ∧
      column.statement.hasModifier "unique" = column.unique ∧
      column.statement.foreign? = column.foreign := by
  have names : ∀ left ∈ ["nullable", "unique", "foreign", "references"],
      ∀ right ∈ ["nullable", "unique", "foreign", "references"],
        sameIgnoringCase left right = decide (left = right) := by
    decide
  obtain ⟨name, type, length, nullable, unique, foreign⟩ := column
  rcases foreign with _ | ⟨table, _ | target⟩ <;> cases nullable <;> cases unique <;>
    simp [Statement.nullable, Statement.hasModifier, Statement.foreign?, Statement.modifierText?,
      Statement.modifier?, statement, modifiers, Call.isNamed, Call.flag, Call.text?, names]

/-- The statement that a column is written as defines the column. -/
theorem column?_statement {column : Column} (expressible : column.isExpressible = true) :
    column.statement.column? = some column := by
  obtain ⟨nullable, unique, foreign⟩ := column.attributes_statement
  have plain := isConstraint_statement expressible
  rw [isExpressible, Bool.and_eq_true] at expressible
  have type : ColumnType.ofMethod column.statement.call.name = column.type :=
    ColumnType.ofMethod_name expressible.1
  have length : (if column.type = .string then column.statement.length? else none) =
      column.length := by
    rw [length?_statement]
    by_cases isString : column.type = .string
    · rw [if_pos isString]
    · have unmeasured := expressible.2
      simp only [beq_eq_false_iff_ne.2 isString, Bool.or_false,
        Option.isNone_iff_eq_none] at unmeasured
      rw [if_neg isString, unmeasured]
  rw [Statement.column?, plain, if_neg Bool.false_ne_true]
  simp only [type, length, nullable, unique, foreign]
  rfl

end Column

/-! ## Tokens -/

namespace Table

/-- The tokens before the first column. -/
def openingKinds (name : String) : List Token.Kind :=
  [.identifier "Schema", .doubleColon, .identifier "create", .openParen, .text name, .comma,
    .identifier "function", .openParen, .identifier "Blueprint", .variable blueprintVariable,
    .closeParen, .other '\x7b']

/-- The tokens after the last column. -/
def closingKinds : List Token.Kind :=
  [.other '\x7d', .closeParen, .semicolon]

theorem kinds_definitions {columns : List Column} (rest : List Char)
    (expressible : ∀ column ∈ columns, column.isExpressible = true) :
    Token.kinds ((String.join (columns.map fun column =>
        column.definitionText ++ "\n")).toList ++ rest) =
      columns.flatMap (fun column => column.statement.kinds) ++ Token.kinds rest := by
  induction columns with
  | nil => simp
  | cons first more inductionHypothesis =>
      have split : (String.join ((first :: more).map fun column =>
            column.definitionText ++ "\n")).toList ++ rest =
          first.statement.written.toList ++ '\n' ::
            ((String.join (more.map fun column => column.definitionText ++ "\n")).toList ++
              rest) := by
        simp [Column.written_statement]
      have writable := Column.writable_statement (expressible first List.mem_cons_self)
      rw [split, Statement.kinds_written _ writable, Token.kinds_lineFeed, inductionHypothesis
        fun column member => expressible column (List.mem_cons_of_mem first member)]
      simp

/-- The scan of a written table: nothing in its names reaches out of its
literals. -/
theorem kinds_migrationText {table : Table} (expressible : table.isExpressible = true) :
    Token.kinds table.migrationText.toList =
      openingKinds table.name ++
        (table.columns.flatMap (fun column => column.statement.kinds) ++ closingKinds) := by
  have split : ∀ name body : String, ("Schema::create(" ++ name ++
        ", function (Blueprint $table) \x7b\n" ++ body ++ "\x7d);").toList =
      "Schema::create(".toList ++ (name.toList ++ (", function (".toList ++
        ("Blueprint $table) \x7b".toList ++ '\n' :: (body.toList ++ "\x7d);".toList)))) := by
    intro name body
    simp
  have create : ∀ tail, Token.leading 4 ("Schema::create(".toList ++ tail) =
      some ([.identifier "Schema", .doubleColon, .identifier "create", .openParen], tail) :=
    fun _ => rfl
  have function : ∀ tail, Token.leading 3 (", function (".toList ++ tail) =
      some ([.comma, .identifier "function", .openParen], tail) :=
    fun _ => rfl
  have blueprint : ∀ tail, Token.leading 4 ("Blueprint $table) \x7b".toList ++ tail) =
      some ([.identifier "Blueprint", .variable blueprintVariable, .closeParen, .other '\x7b'],
        tail) :=
    fun _ => rfl
  have closing : Token.kinds "\x7d);".toList = closingKinds := by
    have read : Token.leading 3 "\x7d);".toList = some (closingKinds, []) := rfl
    rw [Token.kinds_of_leading read, Token.kinds_nil, List.append_nil]
  unfold migrationText
  rw [split, Token.kinds_of_leading (create _), Token.kinds_singleQuoted,
    Token.kinds_of_leading (function _), Token.kinds_of_leading (blueprint _),
    Token.kinds_lineFeed, kinds_definitions _ (List.all_eq_true.1 expressible), closing]
  rfl

/-! ## Statements of the tokens -/

theorem createdTable?_openingKinds (name : String) (rest : List Token) :
    createdTable? ((openingKinds name).map Token.bare ++ rest) = some name := rfl

theorem statements_openingKinds (name : String) (rest : List Token) :
    statements ((openingKinds name).map Token.bare ++ rest) = statements rest := by
  simp only [openingKinds, List.map_cons, List.map_nil, List.cons_append, List.nil_append]
  iterate 12 rw [statements_of_other rfl]

theorem statements_closingKinds : statements (closingKinds.map Token.bare) = [] := by
  simp only [closingKinds, List.map_cons, List.map_nil]
  iterate 3 rw [statements_of_other rfl]
  rw [statements]

theorem statements_definitions (columns : List Column) (rest : List Token) :
    statements ((columns.flatMap fun column => column.statement.kinds).map Token.bare ++ rest) =
      columns.map Column.statement ++ statements rest := by
  induction columns with
  | nil => rfl
  | cons first more inductionHypothesis =>
      rw [List.flatMap_cons, List.map_append, List.append_assoc, statements_kinds,
        Column.unlined_statement, inductionHypothesis]
      rfl

end Table

end FormRules
