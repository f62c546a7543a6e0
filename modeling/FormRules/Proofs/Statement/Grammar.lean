import FormRules.Proofs.Statement.Relabel

/-!
Contract: the written form of calls, chains and statements, as a grammar over
tokens.

Owns:
- nesting of brackets, in which a parenthesis and a square bracket may close
  each other;
- argument lists, calls, chains of calls and statements as they are written;
- the agreement of every stage of the parser with its written form: it reads
  just that form, and finds nothing just where no such form starts.

Does not own: where in a token list statements stand.
-/

namespace FormRules

/-! ## Nesting -/

/-- The number of open brackets behind a token, where `depth` are open in front
of it.  Nothing closes without being open, and outside all brackets stand only
the kinds that `outer` allows. -/
def depthAfter? (outer : Token.Kind → Bool) (kind : Token.Kind) (depth : Nat) : Option Nat :=
  if kind.opens then some (depth + 1)
  else if kind.closes then if depth = 0 then none else some (depth - 1)
  else if depth ≠ 0 || outer kind then some depth
  else none

/-- Of `depth` brackets open in front of the kinds, and of those they open, all
are closed at their end. -/
def nestedFrom (outer : Token.Kind → Bool) : Nat → List Token.Kind → Bool
  | depth, [] => depth == 0
  | depth, kind :: rest => (depthAfter? outer kind depth).any fun below => nestedFrom outer below rest

theorem nestedFrom_cons {outer : Token.Kind → Bool} {depth : Nat} {kind : Token.Kind}
    {rest : List Token.Kind} :
    nestedFrom outer depth (kind :: rest) = true ↔
      ∃ below, depthAfter? outer kind depth = some below ∧ nestedFrom outer below rest = true := by
  rw [nestedFrom, Option.any_eq_true]

def notComma (kind : Token.Kind) : Bool := kind != .comma

/-! ## Arguments -/

/-- The kinds inside a call, and the groups that its commas cut them into;
`depth` of the brackets in the call were opened earlier. -/
inductive ArgumentsFrom : Nat → List Token.Kind → List (List Token.Kind) → Prop where
  | last {depth : Nat} {group : List Token.Kind}
      (nested : nestedFrom notComma depth group = true) :
      ArgumentsFrom depth group [group]
  | more {depth : Nat} {group inside : List Token.Kind} {groups : List (List Token.Kind)}
      (nested : nestedFrom notComma depth group = true)
      (others : ArgumentsFrom 0 inside groups) :
      ArgumentsFrom depth (group ++ .comma :: inside) (group :: groups)

/-- A token of the first group. -/
theorem ArgumentsFrom.onto {depth below : Nat} {kind : Token.Kind} {inside : List Token.Kind}
    {groups : List (List Token.Kind)} (arguments : ArgumentsFrom below inside groups)
    (step : depthAfter? notComma kind depth = some below) :
    ArgumentsFrom depth (kind :: inside) (ontoFirst kind groups) := by
  cases arguments with
  | last nested => exact .last (nestedFrom_cons.2 ⟨below, step, nested⟩)
  | more nested others => exact .more (nestedFrom_cons.2 ⟨below, step, nested⟩) others

/-- What a token inside a call does: it belongs to the group in which it stands,
or it stands directly inside the call and separates two groups, closes the call,
or fails to close it. -/
theorem argumentGroups_cases (depth : Nat) (token : Token) (rest : List Token) :
    (∃ below, depthAfter? notComma token.kind depth = some below ∧
      argumentGroups depth (token :: rest) =
        (argumentGroups below rest).map fun (groups, after) =>
          (ontoFirst token.kind groups, after)) ∨
    (depth = 0 ∧ token.kind = .comma ∧
      argumentGroups depth (token :: rest) =
        (argumentGroups 0 rest).map fun (groups, after) => ([] :: groups, after)) ∨
    (depth = 0 ∧ token.kind = .closeParen ∧
      argumentGroups depth (token :: rest) = some ([[]], rest)) ∨
    (depth = 0 ∧ token.kind = .closeBracket ∧
      argumentGroups depth (token :: rest) = none) := by
  obtain ⟨kind, line⟩ := token
  cases depth with
  | zero =>
      cases kind with
      | comma => exact .inr (.inl ⟨rfl, rfl, rfl⟩)
      | closeParen => exact .inr (.inr (.inl ⟨rfl, rfl, rfl⟩))
      | closeBracket => exact .inr (.inr (.inr ⟨rfl, rfl, rfl⟩))
      | openParen => exact .inl ⟨1, rfl, rfl⟩
      | openBracket => exact .inl ⟨1, rfl, rfl⟩
      | _ => exact .inl ⟨0, rfl, rfl⟩
  | succ depth =>
      left
      cases kind with
      | openParen => exact ⟨depth + 2, rfl, rfl⟩
      | openBracket => exact ⟨depth + 2, rfl, rfl⟩
      | closeParen => exact ⟨depth, rfl, rfl⟩
      | closeBracket => exact ⟨depth, rfl, rfl⟩
      | _ => exact ⟨depth + 1, rfl, rfl⟩

theorem argumentGroups_group {depth : Nat} {group rest after : List Token}
    {first : List Token.Kind} {groups : List (List Token.Kind)}
    (nested : nestedFrom notComma depth (group.map Token.kind) = true)
    (read : argumentGroups 0 rest = some (first :: groups, after)) :
    argumentGroups depth (group ++ rest) =
      some ((group.map Token.kind ++ first) :: groups, after) := by
  induction group generalizing depth with
  | nil =>
      have closed : depth = 0 := by simpa [nestedFrom] using nested
      simpa [closed] using read
  | cons token group inductionHypothesis =>
      obtain ⟨below, step, nestedRest⟩ := nestedFrom_cons.1 nested
      rcases argumentGroups_cases depth token (group ++ rest) with
        ⟨other, stepped, split⟩ | ⟨rfl, isComma, _⟩ | ⟨rfl, isParen, _⟩ | ⟨rfl, isBracket, _⟩
      · cases step.symm.trans stepped
        rw [List.cons_append, split, inductionHypothesis nestedRest]
        rfl
      -- Such a token stands in no group.
      · rw [isComma] at step
        cases step
      · rw [isParen] at step
        cases step
      · rw [isBracket] at step
        cases step

theorem argumentGroups_sound {depth : Nat} {tokens after : List Token}
    {groups : List (List Token.Kind)}
    (read : argumentGroups depth tokens = some (groups, after)) :
    ∃ inside line, tokens = inside ++ ⟨.closeParen, line⟩ :: after ∧
      ArgumentsFrom depth (inside.map Token.kind) groups := by
  induction tokens generalizing depth groups with
  | nil => cases read
  | cons token rest inductionHypothesis =>
      rcases argumentGroups_cases depth token rest with
        ⟨below, step, split⟩ | ⟨rfl, isComma, split⟩ | ⟨rfl, isParen, split⟩ | ⟨rfl, _, split⟩
      · rw [split] at read
        obtain ⟨⟨inner, tail⟩, readRest, same⟩ := Option.map_eq_some_iff.1 read
        cases same
        obtain ⟨inside, line, rfl, arguments⟩ := inductionHypothesis readRest
        exact ⟨token :: inside, line, rfl, arguments.onto step⟩
      · rw [split] at read
        obtain ⟨⟨inner, tail⟩, readRest, same⟩ := Option.map_eq_some_iff.1 read
        cases same
        obtain ⟨inside, line, rfl, arguments⟩ := inductionHypothesis readRest
        have emptyGroup : nestedFrom notComma 0 [] = true := rfl
        refine ⟨token :: inside, line, rfl, ?_⟩
        rw [List.map_cons, isComma]
        exact .more emptyGroup arguments
      · rw [split] at read
        cases read
        obtain ⟨kind, line⟩ := token
        cases isParen
        exact ⟨[], line, rfl, .last rfl⟩
      · rw [split] at read
        cases read

theorem argumentGroups_complete {depth : Nat} {inside : List Token}
    {groups : List (List Token.Kind)}
    (arguments : ArgumentsFrom depth (inside.map Token.kind) groups) (line : Nat)
    (after : List Token) :
    argumentGroups depth (inside ++ ⟨.closeParen, line⟩ :: after) = some (groups, after) := by
  generalize written : inside.map Token.kind = kinds at arguments
  induction arguments generalizing inside with
  | last nested =>
      subst written
      have closed : argumentGroups 0 (⟨.closeParen, line⟩ :: after) = some ([[]], after) := rfl
      simpa using argumentGroups_group nested closed
  | @more depth kinds rest groups nested others inductionHypothesis =>
      obtain ⟨group, tail, rfl, rfl, writtenTail⟩ := List.map_eq_append_iff.1 written
      obtain ⟨⟨kind, commaLine⟩, inside, rfl, isComma, rfl⟩ := List.map_eq_cons_iff.1 writtenTail
      cases isComma
      have separated : argumentGroups 0
          (⟨.comma, commaLine⟩ :: (inside ++ ⟨.closeParen, line⟩ :: after)) =
            some ([] :: groups, after) := by
        simp [argumentGroups, Token.Kind.opens, Token.Kind.closes, inductionHypothesis rfl]
      simpa using argumentGroups_group nested separated

/-! ## Calls -/

/-- A name, and in parentheses the groups that the arguments are read from. -/
def Call.SpelledBy (call : Call) (written : List Token) : Prop :=
  ∃ openLine inside closeLine groups,
    written = ⟨.identifier call.name, call.line⟩ :: ⟨.openParen, openLine⟩ ::
      (inside ++ [⟨.closeParen, closeLine⟩]) ∧
    ArgumentsFrom 0 (inside.map Token.kind) groups ∧
    call.arguments = (dropEmptyLast groups).map Argument.ofGroup

/-- A complete call stands at the front. -/
def StartsCall (tokens : List Token) : Prop :=
  ∃ (call : Call) (written : List Token), call.SpelledBy written ∧ written <+: tokens

theorem Call.parse?_eq_some_iff {tokens after : List Token} {call : Call} :
    Call.parse? tokens = some (call, after) ↔
      ∃ written, call.SpelledBy written ∧ written ++ after = tokens := by
  constructor
  · intro read
    unfold Call.parse? at read
    split at read
    next name line openLine rest =>
      obtain ⟨⟨groups, tail⟩, readGroups, same⟩ := Option.map_eq_some_iff.1 read
      cases same
      obtain ⟨inside, closeLine, rfl, arguments⟩ := argumentGroups_sound readGroups
      exact ⟨_, ⟨openLine, inside, closeLine, groups, rfl, arguments, rfl⟩, by simp⟩
    next => cases read
  · rintro ⟨written, ⟨openLine, inside, closeLine, groups, rfl, arguments, same⟩, rfl⟩
    obtain ⟨name, _, line⟩ := call
    cases same
    have readGroups := argumentGroups_complete arguments closeLine after
    simp [Call.parse?, readGroups]

theorem Call.parse?_eq_none_iff {tokens : List Token} :
    Call.parse? tokens = none ↔ ¬StartsCall tokens := by
  constructor
  · rintro absent ⟨call, written, spelled, after, whole⟩
    cases absent.symm.trans (Call.parse?_eq_some_iff.2 ⟨written, spelled, whole⟩)
  · intro noCall
    cases read : Call.parse? tokens with
    | none => rfl
    | some found =>
        obtain ⟨written, spelled, whole⟩ := Call.parse?_eq_some_iff.1 read
        exact absurd ⟨found.1, written, spelled, found.2, whole⟩ noCall

/-! ## Chains -/

/-- Calls one after the other, each behind an arrow. -/
inductive ChainSpelledBy : List Call → List Token → Prop where
  | nil : ChainSpelledBy [] []
  | cons {line : Nat} {call : Call} {calls : List Call} {written rest : List Token}
      (first : call.SpelledBy written) (others : ChainSpelledBy calls rest) :
      ChainSpelledBy (call :: calls) (⟨.arrow, line⟩ :: (written ++ rest))

/-- An arrow and another complete call stand at the front. -/
def ContinuesChain (tokens : List Token) : Prop :=
  ∃ line rest, tokens = ⟨.arrow, line⟩ :: rest ∧ StartsCall rest

theorem parseModifiers_sound (tokens : List Token) :
    ∃ written, ChainSpelledBy (parseModifiers tokens).1 written ∧
      written ++ (parseModifiers tokens).2 = tokens ∧
      ¬ContinuesChain (parseModifiers tokens).2 := by
  fun_induction parseModifiers tokens with
  | case1 line rest call after read modifiers last split inductionHypothesis =>
      rw [split] at inductionHypothesis
      obtain ⟨others, chain, whole, stops⟩ := inductionHypothesis
      obtain ⟨written, spelled, same⟩ := Call.parse?_eq_some_iff.1 read
      refine ⟨⟨.arrow, line⟩ :: (written ++ others), .cons spelled chain, ?_, stops⟩
      rw [List.cons_append, List.append_assoc, whole, same]
  | case2 line rest absent =>
      refine ⟨[], .nil, rfl, ?_⟩
      rintro ⟨other, tail, same, starts⟩
      cases same
      exact Call.parse?_eq_none_iff.1 absent starts
  | case3 tokens noArrow =>
      refine ⟨[], .nil, rfl, ?_⟩
      rintro ⟨line, rest, rfl, _⟩
      exact noArrow line rest rfl

theorem parseModifiers_complete {calls : List Call} {written after : List Token}
    (chain : ChainSpelledBy calls written) (stops : ¬ContinuesChain after) :
    parseModifiers (written ++ after) = (calls, after) := by
  induction chain with
  | nil =>
      match after, stops with
      | [], _ => exact parseModifiers_of_end (by simp)
      | ⟨kind, line⟩ :: rest, stops =>
          cases kind with
          | arrow =>
              have noCall : ¬StartsCall rest := fun starts => stops ⟨line, rest, rfl, starts⟩
              exact parseModifiers_of_incomplete (Call.parse?_eq_none_iff.2 noCall)
          | _ => exact parseModifiers_of_end (by simp)
  | @cons line call calls written rest first others inductionHypothesis =>
      have read : Call.parse? (written ++ (rest ++ after)) = some (call, rest ++ after) :=
        Call.parse?_eq_some_iff.2 ⟨written, first, rfl⟩
      rw [List.cons_append, List.append_assoc, parseModifiers_of_call read, inductionHypothesis]

/-! ## Statements -/

/-- The blueprint variable, an arrow, a call and a chain of modifiers. -/
def Statement.SpelledBy (statement : Statement) (written : List Token) : Prop :=
  ∃ line arrowLine call chain,
    written = ⟨.variable blueprintVariable, line⟩ :: ⟨.arrow, arrowLine⟩ :: (call ++ chain) ∧
    statement.call.SpelledBy call ∧ ChainSpelledBy statement.modifiers chain

/-- The blueprint variable, an arrow and a complete call stand at the front. -/
def StartsStatement (tokens : List Token) : Prop :=
  ∃ line arrowLine rest,
    tokens = ⟨.variable blueprintVariable, line⟩ :: ⟨.arrow, arrowLine⟩ :: rest ∧ StartsCall rest

theorem afterBlueprint?_eq_some_iff {tokens rest : List Token} :
    afterBlueprint? tokens = some rest ↔
      ∃ line arrowLine,
        tokens = ⟨.variable blueprintVariable, line⟩ :: ⟨.arrow, arrowLine⟩ :: rest := by
  constructor
  · intro started
    unfold afterBlueprint? at started
    split at started
    next name line arrowLine rest =>
      split at started
      next isBlueprint =>
        cases started
        exact ⟨line, arrowLine, by rw [isBlueprint]⟩
      next => cases started
    next => cases started
  · rintro ⟨line, arrowLine, rfl⟩
    rfl

theorem Statement.SpelledBy.startsStatement {statement : Statement} {written : List Token}
    (spelled : statement.SpelledBy written) (after : List Token) :
    StartsStatement (written ++ after) := by
  obtain ⟨line, arrowLine, call, chain, rfl, isCall, _⟩ := spelled
  exact ⟨line, arrowLine, call ++ (chain ++ after), by simp, _, call, isCall, ⟨_, rfl⟩⟩

theorem statementAt?_eq_some_iff {tokens after : List Token} {statement : Statement} :
    statementAt? tokens = some (statement, after) ↔
      ∃ written, statement.SpelledBy written ∧ written ++ after = tokens ∧
        ¬ContinuesChain after := by
  constructor
  · intro found
    obtain ⟨rest, started, read⟩ := Option.bind_eq_some_iff.1 found
    obtain ⟨line, arrowLine, rfl⟩ := afterBlueprint?_eq_some_iff.1 started
    obtain ⟨⟨call, tail⟩, readCall, same⟩ := Option.map_eq_some_iff.1 read
    cases same
    obtain ⟨written, isCall, rfl⟩ := Call.parse?_eq_some_iff.1 readCall
    obtain ⟨chain, isChain, whole, stops⟩ := parseModifiers_sound tail
    refine ⟨_, ⟨line, arrowLine, written, chain, rfl, isCall, isChain⟩, ?_, stops⟩
    simp [whole]
  · rintro ⟨_, ⟨line, arrowLine, call, chain, rfl, isCall, isChain⟩, rfl, stops⟩
    have started : afterBlueprint?
        (⟨.variable blueprintVariable, line⟩ :: ⟨.arrow, arrowLine⟩ :: (call ++ chain) ++ after) =
          some (call ++ chain ++ after) := rfl
    have read : Call.parse? (call ++ chain ++ after) = some (statement.call, chain ++ after) :=
      Call.parse?_eq_some_iff.2 ⟨call, isCall, by rw [List.append_assoc]⟩
    rw [statementAt?, started, Option.bind_some, Statement.parse?, read, Option.map_some]
    simp only [parseModifiers_complete isChain stops]

theorem statementAt?_eq_none_iff {tokens : List Token} :
    statementAt? tokens = none ↔ ¬StartsStatement tokens := by
  constructor
  · rintro absent ⟨line, arrowLine, rest, rfl, starts⟩
    have started : afterBlueprint?
        (⟨.variable blueprintVariable, line⟩ :: ⟨.arrow, arrowLine⟩ :: rest) = some rest := rfl
    rw [statementAt?, started, Option.bind_some, Statement.parse?, Option.map_eq_none_iff] at absent
    exact Call.parse?_eq_none_iff.1 absent starts
  · intro noStatement
    cases found : statementAt? tokens with
    | none => rfl
    | some read =>
        obtain ⟨written, spelled, whole, _⟩ := statementAt?_eq_some_iff.1 found
        exact absurd (whole ▸ spelled.startsStatement read.2) noStatement

end FormRules
