import FormRules.Proofs.Statement.Grammar
import FormRules.Proofs.Token.Kinds

/-!
Contract: statements written out, and read back.

Owns:
- the written form of arguments, calls and statements, with its tokens;
- what may be written out (names are identifiers, numbers are numerals);
- the scan of a written form into its tokens, whatever text follows;
- the parse of the tokens into the statement, whatever tokens follow;
- both together, from the text of a source to its statements.

Does not own: which columns a written statement defines.
-/

namespace FormRules

open FormRules.Text

/-! ## Written forms -/

def Argument.written : Argument → String
  | .text value => singleQuoted value
  | .number digits => digits
  | .identifier name => name
  | .named name value => name ++ ": " ++ written value
  | .expression => "[]"

def Call.written (call : Call) : String :=
  call.name ++ "(" ++ ", ".intercalate (call.arguments.map Argument.written) ++ ")"

def Statement.written (statement : Statement) : String :=
  "$table->" ++ statement.call.written ++
    String.join (statement.modifiers.map fun modifier => "->" ++ modifier.written) ++ ";"

/-- The names in an argument are identifiers, its numbers numerals. -/
def Argument.Writable : Argument → Prop
  | .number digits => Token.IsNumeral digits
  | .identifier name => isIdentifier name = true
  | .named name value => isIdentifier name = true ∧ Writable value
  | _ => True

def Call.Writable (call : Call) : Prop :=
  isIdentifier call.name = true ∧ ∀ argument ∈ call.arguments, argument.Writable

def Statement.Writable (statement : Statement) : Prop :=
  statement.call.Writable ∧ ∀ modifier ∈ statement.modifiers, modifier.Writable

/-! ## Their tokens -/

def Argument.kinds : Argument → List Token.Kind
  | .text value => [.text value]
  | .number digits => [.number digits]
  | .identifier name => [.identifier name]
  | .named name value => .identifier name :: .other ':' :: kinds value
  | .expression => [.openBracket, .closeBracket]

def Call.kinds (call : Call) : List Token.Kind :=
  .identifier call.name :: .openParen ::
    ([Token.Kind.comma].intercalate (call.arguments.map Argument.kinds) ++ [.closeParen])

def Statement.kinds (statement : Statement) : List Token.Kind :=
  .variable blueprintVariable :: .arrow ::
    (statement.call.kinds ++ statement.modifiers.flatMap (fun modifier => .arrow :: modifier.kinds) ++
      [.semicolon])

theorem Argument.kinds_ne_nil (argument : Argument) : argument.kinds ≠ [] := by
  cases argument <;> simp [Argument.kinds]

/-! ## Scanning -/

open Token (breaksWord)

theorem Argument.kinds_written {argument : Argument} {rest : List Char}
    (writable : argument.Writable) (breaks : breaksWord rest = true) :
    Token.kinds (argument.written.toList ++ rest) = argument.kinds ++ Token.kinds rest := by
  induction argument with
  | text value => exact Token.kinds_singleQuoted value rest
  | number digits => exact Token.kinds_numeral writable breaks
  | identifier name => exact Token.kinds_identifier writable breaks
  | named name value inductionHypothesis =>
      have colon : ∀ tail, Token.kinds (':' :: ' ' :: tail) = .other ':' :: Token.kinds tail := by
        intro tail
        rw [← Token.kinds_space tail]
        exact Token.kinds_of_leading_one rfl
      have split : (Argument.named name value).written.toList ++ rest =
          name.toList ++ ':' :: ' ' :: (value.written.toList ++ rest) := by
        simp [Argument.written]
      rw [split, Token.kinds_identifier writable.1 rfl, colon, inductionHypothesis writable.2]
      rfl
  | expression =>
      change Token.kinds ('[' :: ']' :: rest) = _
      rw [Token.kinds_openBracket, Token.kinds_closeBracket]
      rfl

theorem Call.kinds_written {call : Call} (rest : List Char) (writable : call.Writable) :
    Token.kinds (call.written.toList ++ rest) = call.kinds ++ Token.kinds rest := by
  have split : call.written.toList ++ rest =
      call.name.toList ++ '(' ::
        ((", ".intercalate (call.arguments.map Argument.written)).toList ++ ')' :: rest) := by
    simp [Call.written]
  have arguments := Token.kinds_intercalate Argument.written Argument.kinds
    Token.kinds_listComma (fun _ => rfl) (show breaksWord (')' :: rest) = true from rfl)
    fun argument member _ breaks => Argument.kinds_written (writable.2 argument member) breaks
  rw [split, Token.kinds_identifier writable.1 rfl, Token.kinds_openParen, arguments,
    Token.kinds_closeParen]
  simp [Call.kinds]

theorem Call.kinds_join {modifiers : List Call} (rest : List Char)
    (writable : ∀ modifier ∈ modifiers, modifier.Writable) :
    Token.kinds ((String.join (modifiers.map fun modifier =>
        "->" ++ modifier.written)).toList ++ rest) =
      modifiers.flatMap (fun modifier => .arrow :: modifier.kinds) ++ Token.kinds rest := by
  induction modifiers with
  | nil => simp
  | cons first more inductionHypothesis =>
      have split : (String.join ((first :: more).map fun modifier =>
            "->" ++ modifier.written)).toList ++ rest =
          '-' :: '>' :: (first.written.toList ++
            ((String.join (more.map fun modifier => "->" ++ modifier.written)).toList ++
              rest)) := by
        simp
      rw [split, Token.kinds_arrow, Call.kinds_written _ (writable first List.mem_cons_self),
        inductionHypothesis fun modifier member =>
          writable modifier (List.mem_cons_of_mem first member)]
      simp

/-- A written statement is scanned into its tokens, whatever follows it. -/
theorem Statement.kinds_written {statement : Statement} (rest : List Char)
    (writable : statement.Writable) :
    Token.kinds (statement.written.toList ++ rest) = statement.kinds ++ Token.kinds rest := by
  have split : statement.written.toList ++ rest =
      "$table->".toList ++ (statement.call.written.toList ++
        ((String.join (statement.modifiers.map fun modifier =>
          "->" ++ modifier.written)).toList ++ ';' :: rest)) := by
    simp [Statement.written]
  have receiver : ∀ tail, Token.leading 2 ("$table->".toList ++ tail) =
      some ([.variable blueprintVariable, .arrow], tail) := fun _ => rfl
  rw [split, Token.kinds_of_leading (receiver _), Call.kinds_written _ writable.1,
    Call.kinds_join _ writable.2, Token.kinds_semicolon]
  simp [Statement.kinds]

/-! ## Parsing -/

/-- A token of the given kind on no particular line. -/
def Token.bare (kind : Token.Kind) : Token :=
  ⟨kind, 0⟩

/-- The statement without its line numbers. -/
def Statement.unlined (statement : Statement) : Statement :=
  statement.relabel id fun _ => 0

theorem Token.Kind.relabel_id (kind : Token.Kind) : kind.relabel id = kind := by
  cases kind <;> rfl

theorem Argument.relabel_id (argument : Argument) : argument.relabel id = argument := by
  induction argument with
  | named name value inductionHypothesis => simp [Argument.relabel, inductionHypothesis]
  | _ => rfl

theorem Call.relabel_id (call : Call) :
    call.relabel id (fun _ => 0) = { call with line := 0 } := by
  have same : Argument.relabel id = id := funext Argument.relabel_id
  simp [Call.relabel, same]

/-- Tokens without their lines are made of their kinds alone. -/
theorem map_relabel_id (tokens : List Token) :
    tokens.map (Token.relabel id fun _ => 0) = (tokens.map Token.kind).map Token.bare := by
  rw [List.map_map]
  congr 1
  funext token
  simp [Token.relabel, Token.bare, Token.Kind.relabel_id]

theorem Argument.ofGroup_kinds (argument : Argument) :
    Argument.ofGroup argument.kinds = argument := by
  induction argument with
  | named name value inductionHypothesis =>
      obtain ⟨first, more, split⟩ := List.exists_cons_of_ne_nil value.kinds_ne_nil
      rw [split] at inductionHypothesis
      rw [Argument.kinds, split, Argument.ofGroup, inductionHypothesis]
  | _ => rfl

/-- Brackets in an argument are closed in it, and outside of them it has no
comma. -/
theorem Argument.nested_kinds (argument : Argument) :
    nestedFrom notComma 0 argument.kinds = true := by
  induction argument with
  | named name value inductionHypothesis =>
      exact nestedFrom_cons.2 ⟨0, rfl, nestedFrom_cons.2 ⟨0, rfl, inductionHypothesis⟩⟩
  | _ => rfl

theorem argumentsFrom_kinds (first : Argument) (more : List Argument) :
    ArgumentsFrom 0 ([Token.Kind.comma].intercalate ((first :: more).map Argument.kinds))
      ((first :: more).map Argument.kinds) := by
  induction more generalizing first with
  | nil =>
      rw [List.map_singleton, List.intercalate_singleton]
      exact .last first.nested_kinds
  | cons second others inductionHypothesis =>
      have read := inductionHypothesis second
      rw [List.map_cons] at read
      rw [List.map_cons, List.map_cons, List.intercalate_cons_cons, List.append_assoc]
      exact .more first.nested_kinds read

theorem dropEmptyLast_of_full {groups : List (List Token.Kind)}
    (full : ∀ group ∈ groups, group ≠ []) :
    dropEmptyLast groups = groups := by
  unfold dropEmptyLast
  rw [if_neg]
  intro isLast
  exact full [] (List.mem_of_getLast? isLast) rfl

theorem map_kind_map_bare (kinds : List Token.Kind) :
    (kinds.map Token.bare).map Token.kind = kinds := by
  rw [List.map_map]
  exact List.map_id kinds

/-- The tokens of a call spell the call. -/
theorem Call.spelledBy_kinds (call : Call) :
    { call with line := 0 : Call }.SpelledBy (call.kinds.map Token.bare) := by
  obtain ⟨name, arguments, line⟩ := call
  have readBack : Argument.ofGroup ∘ Argument.kinds = id := funext Argument.ofGroup_kinds
  refine ⟨0, ([Token.Kind.comma].intercalate (arguments.map Argument.kinds)).map Token.bare, 0,
    if arguments = [] then [[]] else arguments.map Argument.kinds, ?_, ?_, ?_⟩
  · simp [Call.kinds, Token.bare]
  · rw [map_kind_map_bare]
    cases arguments with
    | nil => exact .last rfl
    | cons first more => exact argumentsFrom_kinds first more
  · have full : dropEmptyLast (if arguments = [] then [[]] else arguments.map Argument.kinds) =
        arguments.map Argument.kinds := by
      split
      next none => rw [none]; rfl
      next =>
        apply dropEmptyLast_of_full
        intro group member
        obtain ⟨argument, _, same⟩ := List.mem_map.1 member
        exact same ▸ argument.kinds_ne_nil
    rw [full, List.map_map, readBack, List.map_id]

theorem chainSpelledBy_kinds (modifiers : List Call) :
    ChainSpelledBy (modifiers.map fun modifier => { modifier with line := 0 })
      ((modifiers.flatMap fun modifier => .arrow :: modifier.kinds).map Token.bare) := by
  induction modifiers with
  | nil => exact .nil
  | cons first more inductionHypothesis =>
      rw [List.flatMap_cons, List.map_append, List.map_cons, List.map_cons, List.cons_append]
      exact .cons first.spelledBy_kinds inductionHypothesis

/-- The tokens of a statement are parsed into the statement, up to the lines
that they do not have. -/
theorem statements_kinds (statement : Statement) (rest : List Token) :
    statements (statement.kinds.map Token.bare ++ rest) =
      statement.unlined :: statements rest := by
  have lines : Call.relabel id (fun _ => 0) = fun call => { call with line := 0 } :=
    funext Call.relabel_id
  have spelled : statement.unlined.SpelledBy
      (⟨.variable blueprintVariable, 0⟩ :: ⟨.arrow, 0⟩ :: (statement.call.kinds.map Token.bare ++
        (statement.modifiers.flatMap fun modifier => .arrow :: modifier.kinds).map
          Token.bare)) := by
    refine ⟨0, 0, _, _, rfl, ?_, ?_⟩
    · simpa only [Statement.unlined, Statement.relabel, lines]
        using statement.call.spelledBy_kinds
    · simpa only [Statement.unlined, Statement.relabel, lines]
        using chainSpelledBy_kinds statement.modifiers
  have stops : ¬ContinuesChain (Token.bare .semicolon :: rest) := by
    rintro ⟨line, tail, same, _⟩
    cases same
  have found : statementAt? (statement.kinds.map Token.bare ++ rest) =
      some (statement.unlined, Token.bare .semicolon :: rest) := by
    refine statementAt?_eq_some_iff.2 ⟨_, spelled, ?_, stops⟩
    simp [Statement.kinds, Token.bare]
  rw [statements_of_statement found, statements_of_other rfl]

/-! ## Sources -/

/-- The statements of a source, without their lines, are those of its tokens
without lines. -/
theorem unlined_statements (source : String) :
    (statements (Token.tokenize source)).map Statement.unlined =
      statements ((Token.kinds source.toList).map Token.bare) := by
  rw [← Token.map_kind_tokenize, ← map_relabel_id, statements_relabel]
  rfl

/-- A written statement in front of any source is the first statement of the
whole, and changes nothing in what is read from the source. -/
theorem statements_written_append {statement : Statement} (writable : statement.Writable)
    (source : String) :
    (statements (Token.tokenize (statement.written ++ source))).map Statement.unlined =
      statement.unlined :: (statements (Token.tokenize source)).map Statement.unlined := by
  rw [unlined_statements, unlined_statements, String.toList_append,
    Statement.kinds_written _ writable, List.map_append, statements_kinds]

/-- A written statement is read back as the statement, up to its lines, and as no
other. -/
theorem statements_written {statement : Statement} (writable : statement.Writable) :
    (statements (Token.tokenize statement.written)).map Statement.unlined =
      [statement.unlined] := by
  have read := statements_written_append writable ""
  rw [String.append_empty] at read
  have none : statements ((Token.kinds "".toList).map Token.bare) = [] := by
    rw [String.toList_empty, Token.kinds_nil, List.map_nil, statements]
  rw [read, unlined_statements, none]

/-- A name in a name, a literal with both of its escapes and a line feed, and a
literal that looks like the end of its call. -/
theorem statements_written_nested_names :
    let statement : Statement :=
      { call :=
          { name := "string", line := 3
            arguments := [.text "it\x27s \\\n", .number "2.50", .expression,
              .named "length" (.named "min" (.identifier "false"))] }
        modifiers := [⟨"comment", [.text "\x27);"], 3⟩, ⟨"nullable", [], 4⟩] }
    statement.Writable ∧
    (statements (Token.tokenize statement.written)).map Statement.unlined =
      [{ call := { statement.call with line := 0 }
         modifiers := statement.modifiers.map fun modifier => { modifier with line := 0 } }] := by
  intro statement
  have writable : statement.Writable := by
    have names : isIdentifier "string" = true ∧ isIdentifier "length" = true ∧
        isIdentifier "min" = true ∧ isIdentifier "false" = true ∧
        isIdentifier "comment" = true ∧ isIdentifier "nullable" = true := by decide
    obtain ⟨string, length, minimum, word, comment, nullable⟩ := names
    have numeral : Token.IsNumeral "2.50" :=
      ⟨['2'], by simp, List.forall_mem_singleton.2 rfl, .inr ⟨['5', '0'], by simp,
        List.forall_mem_cons.2 ⟨rfl, List.forall_mem_singleton.2 rfl⟩, rfl⟩⟩
    have arguments : ∀ argument ∈ statement.call.arguments, argument.Writable :=
      List.forall_mem_cons.2 ⟨trivial, List.forall_mem_cons.2 ⟨numeral,
        List.forall_mem_cons.2 ⟨trivial, List.forall_mem_singleton.2 ⟨length, minimum, word⟩⟩⟩⟩
    have modifiers : ∀ modifier ∈ statement.modifiers, modifier.Writable :=
      List.forall_mem_cons.2 ⟨⟨comment, List.forall_mem_singleton.2 trivial⟩,
        List.forall_mem_singleton.2 ⟨nullable, List.forall_mem_nil _⟩⟩
    exact ⟨⟨string, arguments⟩, modifiers⟩
  exact ⟨writable, (statements_written writable).trans rfl⟩

end FormRules
