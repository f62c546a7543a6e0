import FormRules.Extraction

/-!
Contract: what an extraction reads from a token, apart from its line and the
spelling of its identifier.

Owns:
- the laws of the search for statements and of chains of modifiers, one for
  each case;
- relabelling, which rewrites every identifier and every line number;
- the exchange of relabelling with each stage of the parser;
- the independence of an extraction from a relabelling that keeps the case-free
  form of identifiers.

Does not own: which rewriting of identifiers is of interest.
-/

namespace FormRules

open FormRules.Text

/-! ## Cases of the search -/

theorem parseModifiers_of_call {line : Nat} {rest after : List Token} {call : Call}
    (read : Call.parse? rest = some (call, after)) :
    parseModifiers (⟨.arrow, line⟩ :: rest) =
      (call :: (parseModifiers after).1, (parseModifiers after).2) := by
  rw [parseModifiers]
  split
  next other tail same => rw [read] at same; cases same; rfl
  next absent => rw [read] at absent; cases absent

theorem parseModifiers_of_incomplete {line : Nat} {rest : List Token}
    (absent : Call.parse? rest = none) :
    parseModifiers (⟨.arrow, line⟩ :: rest) = ([], ⟨.arrow, line⟩ :: rest) := by
  rw [parseModifiers]
  split
  next other tail same => rw [absent] at same; cases same
  next => rfl

theorem parseModifiers_of_end {tokens : List Token}
    (noArrow : ∀ token ∈ tokens.head?, token.kind ≠ .arrow) :
    parseModifiers tokens = ([], tokens) := by
  unfold parseModifiers
  split
  next line rest => exact absurd rfl (noArrow _ rfl)
  next => rfl

theorem statements_of_statement {tokens after : List Token} {statement : Statement}
    (found : statementAt? tokens = some (statement, after)) :
    statements tokens = statement :: statements after := by
  cases tokens with
  | nil => cases found
  | cons token rest =>
      rw [statements]
      split
      next other tail same => rw [found] at same; cases same; rfl
      next absent => rw [found] at absent; cases absent

theorem statements_of_other {token : Token} {rest : List Token}
    (absent : statementAt? (token :: rest) = none) :
    statements (token :: rest) = statements rest := by
  rw [statements]
  split
  next other tail same => rw [absent] at same; cases same
  next => rfl

/-! ## Relabelling -/

/-- The kind with its identifier rewritten. -/
def Token.Kind.relabel (rename : String → String) : Token.Kind → Token.Kind
  | .identifier name => .identifier (rename name)
  | kind => kind

/-- The token with its identifier and its line number rewritten. -/
def Token.relabel (rename : String → String) (renumber : Nat → Nat) (token : Token) : Token :=
  ⟨token.kind.relabel rename, renumber token.line⟩

def Argument.relabel (rename : String → String) : Argument → Argument
  | .identifier name => .identifier (rename name)
  | .named name value => .named (rename name) (relabel rename value)
  | argument => argument

def Call.relabel (rename : String → String) (renumber : Nat → Nat) (call : Call) : Call :=
  ⟨rename call.name, call.arguments.map (Argument.relabel rename), renumber call.line⟩

def Statement.relabel (rename : String → String) (renumber : Nat → Nat)
    (statement : Statement) : Statement :=
  ⟨statement.call.relabel rename renumber,
    statement.modifiers.map (Call.relabel rename renumber)⟩

section Parser

variable (rename : String → String) (renumber : Nat → Nat)

@[simp]
theorem Token.Kind.opens_relabel (kind : Token.Kind) :
    (kind.relabel rename).opens = kind.opens := by
  cases kind <;> rfl

@[simp]
theorem Token.Kind.closes_relabel (kind : Token.Kind) :
    (kind.relabel rename).closes = kind.closes := by
  cases kind <;> rfl

@[simp]
theorem Token.Kind.relabel_eq_comma_iff (kind : Token.Kind) :
    kind.relabel rename = .comma ↔ kind = .comma := by
  cases kind <;> simp [Token.Kind.relabel]

@[simp]
theorem Token.Kind.relabel_eq_closeParen_iff (kind : Token.Kind) :
    kind.relabel rename = .closeParen ↔ kind = .closeParen := by
  cases kind <;> simp [Token.Kind.relabel]

theorem Token.Kind.relabel_eq_text_iff (kind : Token.Kind) (value : String) :
    kind.relabel rename = .text value ↔ kind = .text value := by
  cases kind <;> simp [Token.Kind.relabel]

theorem Token.Kind.relabel_eq_number_iff (kind : Token.Kind) (digits : String) :
    kind.relabel rename = .number digits ↔ kind = .number digits := by
  cases kind <;> simp [Token.Kind.relabel]

theorem Token.Kind.relabel_eq_other_iff (kind : Token.Kind) (character : Char) :
    kind.relabel rename = .other character ↔ kind = .other character := by
  cases kind <;> simp [Token.Kind.relabel]

theorem Token.Kind.exists_of_relabel_eq_identifier {kind : Token.Kind} {name : String}
    (same : kind.relabel rename = .identifier name) :
    ∃ old, kind = .identifier old := by
  cases kind <;> simp_all [Token.Kind.relabel]

@[simp]
theorem Token.kind_relabel (token : Token) :
    (token.relabel rename renumber).kind = token.kind.relabel rename := rfl

theorem Argument.ofGroup_relabel (group : List Token.Kind) :
    Argument.ofGroup (group.map (Token.Kind.relabel rename)) =
      (Argument.ofGroup group).relabel rename := by
  fun_induction Argument.ofGroup group with
  | case1 name value more inductionHypothesis =>
      simpa [Argument.ofGroup, Argument.relabel, Token.Kind.relabel] using inductionHypothesis
  | case2 => rfl
  | case3 => rfl
  | case4 => rfl
  | case5 group notNamed notText notNumber notIdentifier =>
      -- A group that is no literal does not become one by relabelling.
      rw [Argument.ofGroup]
      · rfl
      · intro name value more same
        obtain ⟨first, tail, rfl, isName, sameTail⟩ := List.map_eq_cons_iff.1 same
        obtain ⟨second, last, rfl, isColon, sameLast⟩ := List.map_eq_cons_iff.1 sameTail
        obtain ⟨third, others, rfl, _, _⟩ := List.map_eq_cons_iff.1 sameLast
        obtain ⟨old, rfl⟩ := Token.Kind.exists_of_relabel_eq_identifier rename isName
        rw [Token.Kind.relabel_eq_other_iff] at isColon
        subst isColon
        exact notNamed old third others rfl
      · intro value same
        obtain ⟨kind, rfl, isText⟩ := List.map_eq_singleton_iff.1 same
        rw [Token.Kind.relabel_eq_text_iff] at isText
        exact notText value (isText ▸ rfl)
      · intro digits same
        obtain ⟨kind, rfl, isNumber⟩ := List.map_eq_singleton_iff.1 same
        rw [Token.Kind.relabel_eq_number_iff] at isNumber
        exact notNumber digits (isNumber ▸ rfl)
      · intro name same
        obtain ⟨kind, rfl, isName⟩ := List.map_eq_singleton_iff.1 same
        obtain ⟨old, rfl⟩ := Token.Kind.exists_of_relabel_eq_identifier rename isName
        exact notIdentifier old rfl

theorem ontoFirst_relabel (kind : Token.Kind) (groups : List (List Token.Kind)) :
    ontoFirst (kind.relabel rename) (groups.map (List.map (Token.Kind.relabel rename))) =
      (ontoFirst kind groups).map (List.map (Token.Kind.relabel rename)) := by
  cases groups <;> rfl

theorem argumentGroups_relabel (depth : Nat) (tokens : List Token) :
    argumentGroups depth (tokens.map (Token.relabel rename renumber)) =
      (argumentGroups depth tokens).map fun (groups, after) =>
        (groups.map (List.map (Token.Kind.relabel rename)),
          after.map (Token.relabel rename renumber)) := by
  fun_induction argumentGroups depth tokens with
  | case1 => rfl
  | case2 depth token rest opens inductionHypothesis =>
      simp [argumentGroups, opens, inductionHypothesis, Function.comp_def, ontoFirst_relabel]
  | case3 token rest notOpens closes isParen =>
      simp [argumentGroups, isParen, Token.Kind.relabel, Token.Kind.opens, Token.Kind.closes]
  | case4 token rest notOpens closes notParen =>
      simp [argumentGroups, notOpens, closes, notParen]
  | case5 token rest notOpens closes depth inductionHypothesis =>
      simp [argumentGroups, notOpens, closes, inductionHypothesis, Function.comp_def,
        ontoFirst_relabel]
  | case6 depth token rest notOpens notCloses separates inductionHypothesis =>
      simp [argumentGroups, notOpens, notCloses, separates, inductionHypothesis,
        Function.comp_def]
  | case7 depth token rest notOpens notCloses inside inductionHypothesis =>
      simp [argumentGroups, notOpens, notCloses, inside, inductionHypothesis,
        Function.comp_def, ontoFirst_relabel]

theorem dropEmptyLast_relabel (groups : List (List Token.Kind)) :
    dropEmptyLast (groups.map (List.map (Token.Kind.relabel rename))) =
      (dropEmptyLast groups).map (List.map (Token.Kind.relabel rename)) := by
  unfold dropEmptyLast
  rw [List.getLast?_map]
  by_cases emptyLast : groups.getLast? = some []
  · simp [emptyLast]
  · have stillFull : groups.getLast?.map (List.map (Token.Kind.relabel rename)) ≠ some [] := by
      intro same
      obtain ⟨group, isLast, isEmpty⟩ := Option.map_eq_some_iff.1 same
      rw [List.map_eq_nil_iff] at isEmpty
      exact emptyLast (isEmpty ▸ isLast)
    rw [if_neg emptyLast, if_neg stillFull]

theorem Call.parse?_relabel (tokens : List Token) :
    Call.parse? (tokens.map (Token.relabel rename renumber)) =
      (Call.parse? tokens).map fun (call, after) =>
        (call.relabel rename renumber, after.map (Token.relabel rename renumber)) := by
  match tokens with
  | [] => rfl
  | [⟨kind, line⟩] => cases kind <;> rfl
  | ⟨first, line⟩ :: ⟨second, other⟩ :: rest =>
      cases first with
      | identifier name =>
          cases second with
          | openParen =>
              simp only [List.map_cons, Token.relabel, Token.Kind.relabel, Call.parse?,
                argumentGroups_relabel, Option.map_map]
              congr 1
              funext ⟨groups, after⟩
              simp only [Function.comp_apply, Call.relabel, dropEmptyLast_relabel, List.map_map,
                Prod.mk.injEq, Call.mk.injEq, true_and, and_true]
              congr 1
              funext group
              exact Argument.ofGroup_relabel rename group
          | _ => rfl
      | _ => rfl

theorem parseModifiers_relabel (tokens : List Token) :
    parseModifiers (tokens.map (Token.relabel rename renumber)) =
      ((parseModifiers tokens).1.map (Call.relabel rename renumber),
        (parseModifiers tokens).2.map (Token.relabel rename renumber)) := by
  fun_induction parseModifiers tokens with
  | case1 line rest call after read modifiers last split inductionHypothesis =>
      have readRelabelled := Call.parse?_relabel rename renumber rest
      rw [read, Option.map_some] at readRelabelled
      rw [split] at inductionHypothesis
      rw [List.map_cons]
      change parseModifiers (⟨.arrow, renumber line⟩ :: _) = _
      rw [parseModifiers_of_call readRelabelled, inductionHypothesis]
      rfl
  | case2 line rest absent =>
      have absentRelabelled := Call.parse?_relabel rename renumber rest
      rw [absent, Option.map_none] at absentRelabelled
      rw [List.map_cons]
      change parseModifiers (⟨.arrow, renumber line⟩ :: _) = _
      rw [parseModifiers_of_incomplete absentRelabelled]
      rfl
  | case3 tokens noArrow =>
      apply parseModifiers_of_end
      intro token member isArrow
      cases tokens with
      | nil => cases member
      | cons head rest =>
          obtain ⟨kind, line⟩ := head
          cases member
          cases kind with
          | arrow => exact noArrow line rest rfl
          | _ => cases isArrow

theorem Statement.parse?_relabel (tokens : List Token) :
    Statement.parse? (tokens.map (Token.relabel rename renumber)) =
      (Statement.parse? tokens).map fun (statement, after) =>
        (statement.relabel rename renumber, after.map (Token.relabel rename renumber)) := by
  simp only [Statement.parse?, Call.parse?_relabel, Option.map_map]
  congr 1
  funext ⟨call, rest⟩
  simp only [Function.comp_apply, parseModifiers_relabel, Statement.relabel]

theorem afterBlueprint?_relabel (tokens : List Token) :
    afterBlueprint? (tokens.map (Token.relabel rename renumber)) =
      (afterBlueprint? tokens).map (List.map (Token.relabel rename renumber)) := by
  match tokens with
  | [] => rfl
  | [⟨kind, line⟩] => cases kind <;> rfl
  | ⟨first, line⟩ :: ⟨second, other⟩ :: rest =>
      cases first with
      | «variable» name =>
          cases second with
          | arrow =>
              simp only [List.map_cons, Token.relabel, Token.Kind.relabel, afterBlueprint?]
              split <;> rfl
          | _ => rfl
      | _ => rfl

theorem statementAt?_relabel (tokens : List Token) :
    statementAt? (tokens.map (Token.relabel rename renumber)) =
      (statementAt? tokens).map fun (statement, after) =>
        (statement.relabel rename renumber, after.map (Token.relabel rename renumber)) := by
  unfold statementAt?
  rw [afterBlueprint?_relabel]
  cases afterBlueprint? tokens with
  | none => rfl
  | some rest => exact Statement.parse?_relabel rename renumber rest

/-- The statements of relabelled tokens are the relabelled statements. -/
theorem statements_relabel (tokens : List Token) :
    statements (tokens.map (Token.relabel rename renumber)) =
      (statements tokens).map (Statement.relabel rename renumber) := by
  fun_induction statements tokens with
  | case1 => simp [statements]
  | case2 token rest statement after found inductionHypothesis =>
      have foundRelabelled := statementAt?_relabel rename renumber (token :: rest)
      rw [found, Option.map_some] at foundRelabelled
      rw [statements_of_statement foundRelabelled, inductionHypothesis, List.map_cons]
  | case3 token rest absent inductionHypothesis =>
      have absentRelabelled := statementAt?_relabel rename renumber (token :: rest)
      rw [absent, Option.map_none, List.map_cons] at absentRelabelled
      rw [List.map_cons, statements_of_other absentRelabelled, inductionHypothesis]

end Parser

/-! ## Meaning -/

section Meaning

variable {rename : String → String} (renumber : Nat → Nat)
  (sameFold : ∀ name, asciiFold (rename name) = asciiFold name)
  (sameType : ∀ name, ColumnType.ofMethod (rename name) = ColumnType.ofMethod name)

include sameFold

theorem sameIgnoringCase_rename (name other : String) :
    sameIgnoringCase (rename name) other = sameIgnoringCase name other := by
  rw [sameIgnoringCase, sameIgnoringCase, sameFold]

theorem Call.isNamed_relabel (call : Call) (name : String) :
    (call.relabel rename renumber).isNamed name = call.isNamed name :=
  sameIgnoringCase_rename sameFold call.name name

omit sameFold in
theorem Argument.word32?_relabel (argument : Argument) :
    (argument.relabel rename).word32? = argument.word32? := by
  cases argument <;> rfl

omit sameFold in
theorem Call.text?_relabel (call : Call) (position : Nat) :
    (call.relabel rename renumber).text? position = call.text? position := by
  unfold Call.text?
  simp only [Call.relabel, List.getElem?_map]
  cases call.arguments[position]? with
  | none => rfl
  | some argument => cases argument <;> rfl

omit sameFold in
theorem Call.word32At?_relabel (call : Call) (position : Nat) :
    (call.relabel rename renumber).word32At? position = call.word32At? position := by
  simp only [Call.word32At?, Call.relabel, List.getElem?_map]
  cases call.arguments[position]? with
  | none => rfl
  | some argument => exact Argument.word32?_relabel argument

theorem Call.named?_relabel (call : Call) (name : String) :
    (call.relabel rename renumber).named? name =
      (call.named? name).map (Argument.relabel rename) := by
  simp only [Call.named?, Call.relabel, List.findSome?_map]
  induction call.arguments with
  | nil => rfl
  | cons argument rest inductionHypothesis =>
      rw [List.findSome?_cons, List.findSome?_cons, inductionHypothesis]
      cases argument with
      | named label value =>
          simp only [Function.comp_apply, Argument.relabel, sameIgnoringCase_rename sameFold]
          split <;> simp_all
      | _ => rfl

theorem Call.word32?_relabel (call : Call) (position : Nat) (name : String) :
    (call.relabel rename renumber).word32? position name = call.word32? position name := by
  unfold Call.word32?
  rw [Call.named?_relabel renumber sameFold, Call.word32At?_relabel]
  cases call.named? name with
  | none => rfl
  | some value => simp [Argument.word32?_relabel]

theorem Call.flag_relabel (call : Call) :
    (call.relabel rename renumber).flag = call.flag := by
  simp only [Call.flag, Call.relabel, List.head?_map]
  cases call.arguments.head? with
  | none => rfl
  | some argument =>
      cases argument with
      | identifier word =>
          simp only [Option.map_some, Argument.relabel, sameIgnoringCase_rename sameFold]
      | _ => rfl

theorem Statement.modifier?_relabel (statement : Statement) (name : String) :
    (statement.relabel rename renumber).modifier? name =
      (statement.modifier? name).map (Call.relabel rename renumber) := by
  have sameTest : (fun modifier : Call => modifier.isNamed name) ∘ Call.relabel rename renumber =
      fun modifier => modifier.isNamed name :=
    funext fun modifier => Call.isNamed_relabel renumber sameFold modifier name
  simp only [Statement.modifier?, Statement.relabel, List.filter_map, sameTest,
    List.getLast?_map]

theorem Statement.hasModifier_relabel (statement : Statement) (name : String) :
    (statement.relabel rename renumber).hasModifier name = statement.hasModifier name := by
  have sameTest : (fun modifier : Call => modifier.isNamed name) ∘ Call.relabel rename renumber =
      fun modifier => modifier.isNamed name :=
    funext fun modifier => Call.isNamed_relabel renumber sameFold modifier name
  simp only [Statement.hasModifier, Statement.relabel, List.any_map, sameTest]

theorem Statement.modifierText?_relabel (statement : Statement) (name : String) :
    (statement.relabel rename renumber).modifierText? name = statement.modifierText? name := by
  unfold Statement.modifierText?
  rw [Statement.modifier?_relabel renumber sameFold]
  cases statement.modifier? name with
  | none => rfl
  | some modifier => exact Call.text?_relabel renumber modifier 0

theorem Statement.isConstraint_relabel (statement : Statement) :
    (statement.relabel rename renumber).isConstraint = statement.isConstraint := by
  simp only [Statement.isConstraint, Statement.relabel, Call.isNamed_relabel renumber sameFold]

omit sameFold in
theorem Statement.target?_relabel (statement : Statement) :
    (statement.relabel rename renumber).target? = statement.target? :=
  Call.text?_relabel renumber statement.call 0

theorem Statement.length?_relabel (statement : Statement) :
    (statement.relabel rename renumber).length? = statement.length? := by
  have sameTest : (fun modifier : Call => modifier.isNamed "length" ||
        modifier.isNamed "maxLength") ∘ Call.relabel rename renumber =
      fun modifier => modifier.isNamed "length" || modifier.isNamed "maxLength" := by
    funext modifier
    simp only [Function.comp_apply, Call.isNamed_relabel renumber sameFold]
  have sameValue : (fun modifier : Call => modifier.word32? 0 "length") ∘
        Call.relabel rename renumber =
      fun modifier => modifier.word32? 0 "length" :=
    funext fun modifier => Call.word32?_relabel renumber sameFold modifier 0 "length"
  simp only [Statement.length?, Statement.relabel, List.filter_map, sameTest,
    List.findSome?_map, sameValue, Call.word32?_relabel renumber sameFold]

theorem Statement.nullable_relabel (statement : Statement) :
    (statement.relabel rename renumber).nullable = statement.nullable := by
  unfold Statement.nullable
  rw [Statement.modifier?_relabel renumber sameFold]
  cases statement.modifier? "nullable" with
  | none => rfl
  | some modifier => exact Call.flag_relabel renumber sameFold modifier

theorem Statement.foreign?_relabel (statement : Statement) :
    (statement.relabel rename renumber).foreign? = statement.foreign? := by
  simp only [Statement.foreign?, Statement.modifierText?_relabel renumber sameFold]

theorem Statement.annotated?_relabel (statement : Statement) (column : Column) :
    (statement.relabel rename renumber).annotated? column = statement.annotated? column := by
  simp only [Statement.annotated?, Statement.modifierText?_relabel renumber sameFold]
  simp only [Statement.relabel, Call.isNamed_relabel renumber sameFold]

omit sameFold in
theorem createdTableAt?_of_short {tokens : List Token} (short : tokens.length < 5) :
    createdTableAt? tokens = none := by
  unfold createdTableAt?
  split
  · simp only [List.length_cons] at short
    omega
  · rfl

theorem createdTableAt?_relabel (tokens : List Token) :
    createdTableAt? (tokens.map (Token.relabel rename renumber)) = createdTableAt? tokens := by
  by_cases short : tokens.length < 5
  · rw [createdTableAt?_of_short short, createdTableAt?_of_short (by rwa [List.length_map])]
  · match tokens, short with
    | ⟨first, _⟩ :: ⟨second, _⟩ :: ⟨third, _⟩ :: ⟨fourth, _⟩ :: ⟨fifth, _⟩ :: rest, _ =>
        cases first with
        | identifier schema =>
            cases second with
            | doubleColon =>
                cases third with
                | identifier create =>
                    cases fourth with
                    | openParen =>
                        cases fifth with
                        | text name =>
                            simp only [List.map_cons, Token.relabel, Token.Kind.relabel,
                              createdTableAt?, sameIgnoringCase_rename sameFold]
                        | _ => rfl
                    | _ => rfl
                | _ => rfl
            | _ => rfl
        | _ => rfl
    | [], short => simp at short
    | [_], short => simp at short
    | [_, _], short => simp at short
    | [_, _, _], short => simp at short
    | [_, _, _, _], short => simp at short

theorem createdTable?_relabel (tokens : List Token) :
    createdTable? (tokens.map (Token.relabel rename renumber)) = createdTable? tokens := by
  induction tokens with
  | nil => rfl
  | cons token rest inductionHypothesis =>
      have front := createdTableAt?_relabel renumber sameFold (token :: rest)
      rw [List.map_cons] at front ⊢
      rw [createdTable?, createdTable?, front, inductionHypothesis]

include sameType

/-- A relabelled statement defines the same column. -/
theorem Statement.column?_relabel (statement : Statement) :
    (statement.relabel rename renumber).column? = statement.column? := by
  simp only [Statement.column?, Statement.isConstraint_relabel renumber sameFold,
    Statement.target?_relabel, Statement.length?_relabel renumber sameFold,
    Statement.nullable_relabel renumber sameFold, Statement.hasModifier_relabel renumber sameFold,
    Statement.foreign?_relabel renumber sameFold]
  simp only [Statement.relabel, Call.relabel, sameType]

theorem Table.apply_relabel (skip : SkipLists) (table : Table) (statement : Statement) :
    table.apply skip (statement.relabel rename renumber) = table.apply skip statement := by
  have sameEffect : (statement.relabel rename renumber).annotated? = statement.annotated? :=
    funext fun column => Statement.annotated?_relabel renumber sameFold statement column
  simp only [Table.apply, Table.annotate, Statement.isConstraint_relabel renumber sameFold,
    Statement.target?_relabel, sameEffect, Statement.column?_relabel renumber sameFold sameType]

theorem Table.ofStatements_relabel (skip : SkipLists) (name : String)
    (statements : List Statement) :
    Table.ofStatements skip name (statements.map (Statement.relabel rename renumber)) =
      Table.ofStatements skip name statements := by
  simp only [Table.ofStatements, List.foldl_map,
    Table.apply_relabel renumber sameFold sameType]

/-- An extraction depends neither on line numbers nor on how identifiers are
spelled, as long as their case-free form and the types they name stay. -/
theorem Extraction.ofTokens_relabel (skip : SkipLists) (tokens : List Token) :
    Extraction.ofTokens skip (tokens.map (Token.relabel rename renumber)) =
      Extraction.ofTokens skip tokens := by
  simp only [Extraction.ofTokens, createdTable?_relabel renumber sameFold,
    statements_relabel, Table.ofStatements_relabel renumber sameFold sameType]

end Meaning

end FormRules
