import FormRules.Statement
import FormRules.Token

/-!
Contract: calls, chains and statements in a list of tokens.

Owns:
- the argument groups of a call, cut at the commas directly inside its
  parentheses;
- chains of calls joined by arrows, each taken as far as it goes;
- the statements of a token list, in order and without overlap.

Does not own: the meaning of a method.
-/

namespace FormRules

open FormRules.Text

/-! ## Arguments -/

/-- What a group of tokens is as an argument. -/
def Argument.ofGroup : List Token.Kind → Argument
  | .identifier name :: .other ':' :: value :: more => .named name (ofGroup (value :: more))
  | [.text value] => .text value
  | [.number digits] => .number digits
  | [.identifier name] => .identifier name
  | _ => .expression

/-- Add a token to the first of some groups. -/
def ontoFirst (kind : Token.Kind) : List (List Token.Kind) → List (List Token.Kind)
  | [] => [[kind]]
  | group :: groups => (kind :: group) :: groups

/-- The groups up to the parenthesis that closes the call, and the tokens
after it.  `depth` counts the brackets open inside the call; of those, a
parenthesis may be closed by a square bracket and the other way round, but
the call itself only by a parenthesis. -/
def argumentGroups : Nat → List Token → Option (List (List Token.Kind) × List Token)
  | _, [] => none
  | depth, token :: rest =>
      if token.kind.opens then
        (argumentGroups (depth + 1) rest).map fun (groups, after) =>
          (ontoFirst token.kind groups, after)
      else if token.kind.closes then
        match depth with
        | 0 => if token.kind = .closeParen then some ([[]], rest) else none
        | depth + 1 =>
            (argumentGroups depth rest).map fun (groups, after) =>
              (ontoFirst token.kind groups, after)
      else if token.kind = .comma && depth == 0 then
        (argumentGroups 0 rest).map fun (groups, after) => ([] :: groups, after)
      else
        (argumentGroups depth rest).map fun (groups, after) =>
          (ontoFirst token.kind groups, after)

/-- An empty last group is no argument: the list was empty, or ended with a
comma. -/
def dropEmptyLast (groups : List (List Token.Kind)) : List (List Token.Kind) :=
  if groups.getLast? = some [] then groups.dropLast else groups

theorem argumentGroups_length_lt {depth : Nat} {tokens after : List Token}
    {groups : List (List Token.Kind)}
    (found : argumentGroups depth tokens = some (groups, after)) :
    after.length < tokens.length := by
  fun_induction argumentGroups depth tokens generalizing groups after with
  | case1 => simp at found
  | case2 depth token rest _ inductionHypothesis =>
      obtain ⟨⟨inner, tail⟩, read, same⟩ := Option.map_eq_some_iff.1 found
      simp only [Prod.mk.injEq] at same
      exact same.2 ▸ Nat.lt_succ_of_lt (inductionHypothesis read)
  | case3 token rest _ _ _ =>
      simp only [Option.some.injEq, Prod.mk.injEq] at found
      exact found.2 ▸ Nat.lt_succ_self _
  | case4 => simp at found
  | case5 token rest _ _ depth inductionHypothesis =>
      obtain ⟨⟨inner, tail⟩, read, same⟩ := Option.map_eq_some_iff.1 found
      simp only [Prod.mk.injEq] at same
      exact same.2 ▸ Nat.lt_succ_of_lt (inductionHypothesis read)
  | case6 depth token rest _ _ _ inductionHypothesis =>
      obtain ⟨⟨inner, tail⟩, read, same⟩ := Option.map_eq_some_iff.1 found
      simp only [Prod.mk.injEq] at same
      exact same.2 ▸ Nat.lt_succ_of_lt (inductionHypothesis read)
  | case7 depth token rest _ _ _ inductionHypothesis =>
      obtain ⟨⟨inner, tail⟩, read, same⟩ := Option.map_eq_some_iff.1 found
      simp only [Prod.mk.injEq] at same
      exact same.2 ▸ Nat.lt_succ_of_lt (inductionHypothesis read)

/-! ## Calls and chains -/

/-- A name, an opening parenthesis and the arguments up to its closing one. -/
def Call.parse? : List Token → Option (Call × List Token)
  | ⟨.identifier name, line⟩ :: ⟨.openParen, _⟩ :: rest =>
      (argumentGroups 0 rest).map fun (groups, after) =>
        (⟨name, (dropEmptyLast groups).map Argument.ofGroup, line⟩, after)
  | _ => none

theorem Call.parse?_length_lt {tokens after : List Token} {call : Call}
    (found : Call.parse? tokens = some (call, after)) :
    after.length < tokens.length := by
  unfold Call.parse? at found
  split at found
  next name line outer rest =>
    obtain ⟨⟨groups, tail⟩, read, same⟩ := Option.map_eq_some_iff.1 found
    simp only [Prod.mk.injEq] at same
    have shorter := argumentGroups_length_lt read
    rw [← same.2]
    simp only [List.length_cons]
    omega
  next => simp at found

/-- The calls that follow, each after an arrow, as far as they are complete. -/
def parseModifiers : List Token → List Call × List Token
  | ⟨.arrow, line⟩ :: rest =>
      match _found : Call.parse? rest with
      | some (call, after) =>
          let (modifiers, last) := parseModifiers after
          (call :: modifiers, last)
      | none => ([], ⟨.arrow, line⟩ :: rest)
  | tokens => ([], tokens)
termination_by tokens => tokens.length
decreasing_by
  exact Nat.lt_succ_of_lt (Call.parse?_length_lt _found)

theorem parseModifiers_length_le (tokens : List Token) :
    (parseModifiers tokens).2.length ≤ tokens.length := by
  fun_induction parseModifiers tokens with
  | case1 line rest call after found modifiers last split inductionHypothesis =>
      have shorter := Call.parse?_length_lt found
      rw [split] at inductionHypothesis
      simp only [List.length_cons] at inductionHypothesis ⊢
      omega
  | case2 => simp
  | case3 => simp

/-- A call with its modifiers. -/
def Statement.parse? (tokens : List Token) : Option (Statement × List Token) :=
  (Call.parse? tokens).map fun (call, rest) =>
    let (modifiers, after) := parseModifiers rest
    (⟨call, modifiers⟩, after)

theorem Statement.parse?_length_lt {tokens after : List Token} {statement : Statement}
    (found : Statement.parse? tokens = some (statement, after)) :
    after.length < tokens.length := by
  obtain ⟨⟨call, rest⟩, read, same⟩ := Option.map_eq_some_iff.1 found
  simp only [Prod.mk.injEq] at same
  have shorter := Call.parse?_length_lt read
  have notLonger := parseModifiers_length_le rest
  rw [same.2] at notLonger
  omega

/-! ## Token lists -/

/-- The variable that statements are made on. -/
def blueprintVariable : String := "table"

/-- The tokens after the blueprint variable and an arrow, where the list
starts with both. -/
def afterBlueprint? : List Token → Option (List Token)
  | ⟨.variable name, _⟩ :: ⟨.arrow, _⟩ :: rest =>
      if name = blueprintVariable then some rest else none
  | _ => none

theorem afterBlueprint?_length_lt {tokens rest : List Token}
    (found : afterBlueprint? tokens = some rest) :
    rest.length < tokens.length := by
  unfold afterBlueprint? at found
  split at found
  next =>
    split at found
    · simp only [Option.some.injEq] at found
      subst found
      simp only [List.length_cons]
      omega
    · simp at found
  next => simp at found

/-- The statement at the very front of a token list. -/
def statementAt? (tokens : List Token) : Option (Statement × List Token) :=
  (afterBlueprint? tokens).bind Statement.parse?

theorem statementAt?_length_lt {tokens after : List Token} {statement : Statement}
    (found : statementAt? tokens = some (statement, after)) :
    after.length < tokens.length := by
  obtain ⟨rest, started, read⟩ := Option.bind_eq_some_iff.1 found
  have first := afterBlueprint?_length_lt started
  have second := Statement.parse?_length_lt read
  omega

/-- Every statement, in order.  The search goes on behind a statement that was
found, and one token further where there is none. -/
def statements : List Token → List Statement
  | [] => []
  | token :: rest =>
      match _found : statementAt? (token :: rest) with
      | some (statement, after) => statement :: statements after
      | none => statements rest
termination_by tokens => tokens.length
decreasing_by
  · exact statementAt?_length_lt _found
  · exact Nat.lt_succ_self _

/-- The table name of a create construct at the very front of a token list. -/
def createdTableAt? : List Token → Option String
  | ⟨.identifier schema, _⟩ :: ⟨.doubleColon, _⟩ :: ⟨.identifier create, _⟩ ::
      ⟨.openParen, _⟩ :: ⟨.text name, _⟩ :: _ =>
      if sameIgnoringCase schema "Schema" && sameIgnoringCase create "create" then some name
      else none
  | _ => none

/-- The table name of the first create construct. -/
def createdTable? : List Token → Option String
  | [] => none
  | token :: rest => (createdTableAt? (token :: rest)).or (createdTable? rest)

end FormRules
