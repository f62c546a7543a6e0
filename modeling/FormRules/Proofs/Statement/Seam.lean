import FormRules.Proofs.Statement.Grammar

/-!
Contract: the statements on both sides of a semicolon behind balanced tokens.

Owns:
- balance of brackets, and the balance of everything that the grammar of
  statements spells;
- the seam: no statement reads over a semicolon behind which all brackets are
  closed;
- the statements and the created table of such a joined token list.

Does not own: brackets and semicolons in the text of a source.
-/

namespace FormRules

open FormRules.Text

/-! ## Balance -/

def anyKind (_ : Token.Kind) : Bool := true

/-- Every bracket of the tokens is closed, and none closes too early. -/
def Balanced (tokens : List Token) : Prop :=
  nestedFrom anyKind 0 (tokens.map Token.kind) = true

instance (tokens : List Token) : Decidable (Balanced tokens) :=
  inferInstanceAs (Decidable (_ = _))

/-- Further brackets that are open outside stay open. -/
theorem depthAfter?_add {kind : Token.Kind} {depth below : Nat}
    (step : depthAfter? anyKind kind depth = some below) (extra : Nat) :
    depthAfter? anyKind kind (depth + extra) = some (below + extra) := by
  unfold depthAfter? at step ⊢
  split at step
  next opens =>
    cases step
    rw [if_pos opens]
    congr 1
    omega
  next notOpens =>
    rw [if_neg notOpens]
    split at step
    next closes =>
      rw [if_pos closes]
      split at step
      · cases step
      next isOpen =>
        cases step
        rw [if_neg (by omega)]
        congr 1
        omega
    next notCloses =>
      rw [if_neg notCloses]
      simp only [anyKind, Bool.or_true, if_true, Option.some.injEq] at step ⊢
      rw [step]

theorem depthAfter?_anyKind {outer : Token.Kind → Bool} {kind : Token.Kind} {depth below : Nat}
    (step : depthAfter? outer kind depth = some below) :
    depthAfter? anyKind kind depth = some below := by
  unfold depthAfter? at step ⊢
  split at step
  next opens => rwa [if_pos opens]
  next notOpens =>
    rw [if_neg notOpens]
    split at step
    next closes => rwa [if_pos closes]
    next notCloses =>
      rw [if_neg notCloses]
      split at step
      · simpa [anyKind] using step
      · cases step

theorem nestedFrom_anyKind {outer : Token.Kind → Bool} {depth : Nat} {kinds : List Token.Kind}
    (nested : nestedFrom outer depth kinds = true) : nestedFrom anyKind depth kinds = true := by
  induction kinds generalizing depth with
  | nil => exact nested
  | cons kind rest inductionHypothesis =>
      obtain ⟨below, step, nestedRest⟩ := nestedFrom_cons.1 nested
      exact nestedFrom_cons.2 ⟨below, depthAfter?_anyKind step, inductionHypothesis nestedRest⟩

/-- Kinds that close what is open at one depth leave what is open outside. -/
theorem nestedFrom_append {depth : Nat} {first : List Token.Kind}
    (nested : nestedFrom anyKind depth first = true) (extra : Nat) (second : List Token.Kind) :
    nestedFrom anyKind (depth + extra) (first ++ second) = nestedFrom anyKind extra second := by
  induction first generalizing depth with
  | nil =>
      have closed : depth = 0 := by simpa [nestedFrom] using nested
      rw [closed, Nat.zero_add, List.nil_append]
  | cons kind rest inductionHypothesis =>
      obtain ⟨below, step, nestedRest⟩ := nestedFrom_cons.1 nested
      rw [List.cons_append, nestedFrom, depthAfter?_add step, Option.any_some,
        inductionHypothesis nestedRest]

/-- No front part of balanced kinds closes brackets from outside. -/
theorem not_nestedFrom_of_prefix {depth : Nat} {first second : List Token.Kind}
    (nested : nestedFrom anyKind depth (first ++ second) = true) (extra : Nat) :
    nestedFrom anyKind (depth + (extra + 1)) first = false := by
  induction first generalizing depth with
  | nil => rfl
  | cons kind rest inductionHypothesis =>
      obtain ⟨below, step, nestedRest⟩ := nestedFrom_cons.1 nested
      rw [nestedFrom, depthAfter?_add step, Option.any_some, inductionHypothesis nestedRest]

/-! ## Balance of the grammar -/

theorem ArgumentsFrom.nested {depth : Nat} {inside : List Token.Kind}
    {groups : List (List Token.Kind)} (arguments : ArgumentsFrom depth inside groups) :
    nestedFrom anyKind depth inside = true := by
  induction arguments with
  | last nested => exact nestedFrom_anyKind nested
  | @more depth group inside groups nested others inductionHypothesis =>
      have joined := nestedFrom_append (nestedFrom_anyKind nested) 0 (.comma :: inside)
      rw [Nat.add_zero] at joined
      rw [joined]
      exact nestedFrom_cons.2 ⟨0, rfl, inductionHypothesis⟩

theorem Balanced.append {first second : List Token} (balanced : Balanced first)
    (other : Balanced second) : Balanced (first ++ second) := by
  have joined := nestedFrom_append balanced 0 (second.map Token.kind)
  rw [Balanced, List.map_append]
  exact joined.trans other

theorem Call.SpelledBy.balanced {call : Call} {written : List Token}
    (spelled : call.SpelledBy written) : Balanced written := by
  obtain ⟨openLine, inside, closeLine, groups, rfl, arguments, _⟩ := spelled
  have closed := nestedFrom_append arguments.nested 1 [.closeParen]
  simpa [Balanced, nestedFrom, depthAfter?, Token.Kind.opens, Token.Kind.closes, anyKind]
    using closed

theorem ChainSpelledBy.balanced {calls : List Call} {written : List Token}
    (chain : ChainSpelledBy calls written) : Balanced written := by
  induction chain with
  | nil => rfl
  | cons first others inductionHypothesis =>
      exact nestedFrom_cons.2 ⟨0, rfl, first.balanced.append inductionHypothesis⟩

theorem Statement.SpelledBy.balanced {statement : Statement} {written : List Token}
    (spelled : statement.SpelledBy written) : Balanced written := by
  obtain ⟨line, arrowLine, call, chain, rfl, isCall, isChain⟩ := spelled
  have whole : Balanced (call ++ chain) := isCall.balanced.append isChain.balanced
  exact nestedFrom_cons.2 ⟨0, rfl, nestedFrom_cons.2 ⟨0, rfl, whole⟩⟩

/-- Behind balanced tokens, the brackets that were open in front of them still
are. -/
theorem Balanced.nestedFrom_rest {depth : Nat} {first second : List Token}
    (balanced : Balanced first)
    (nested : nestedFrom anyKind depth ((first ++ second).map Token.kind) = true) :
    nestedFrom anyKind depth (second.map Token.kind) = true := by
  have joined := nestedFrom_append balanced depth (second.map Token.kind)
  rw [Nat.zero_add, ← List.map_append] at joined
  exact joined.symm.trans nested

/-! ## The seam -/

theorem nestedFrom_plain {depth : Nat} {kind : Token.Kind} {rest : List Token.Kind}
    (notOpens : kind.opens = false) (notCloses : kind.closes = false) :
    nestedFrom anyKind depth (kind :: rest) = nestedFrom anyKind depth rest := by
  simp [nestedFrom, depthAfter?, notOpens, notCloses, anyKind]

section Seam

variable {depth line : Nat} {first rest : List Token}

/-- A call that starts in front of the seam is closed in front of it. -/
theorem StartsCall.of_append_semicolon
    (nested : nestedFrom anyKind depth (first.map Token.kind) = true)
    (starts : StartsCall (first ++ ⟨.semicolon, line⟩ :: rest)) : StartsCall first := by
  obtain ⟨call, written, spelled, after, whole⟩ := starts
  rcases List.append_eq_append_iff.1 whole with ⟨more, rfl, _⟩ | ⟨more, same, behind⟩
  · exact ⟨call, written, spelled, List.prefix_append _ _⟩
  · cases more with
    | nil =>
        rw [List.append_nil] at same
        exact ⟨call, written, spelled, same ▸ List.prefix_refl _⟩
    | cons seam more =>
        -- The call would reach over the seam, although the tokens in front of it
        -- close the opening parenthesis of the call.
        cases (List.cons.inj behind).1
        obtain ⟨openLine, inside, closeLine, groups, rfl, arguments, _⟩ := spelled
        match first, nested, same with
        | [], _, same => cases (List.cons.inj same).1
        | [_], _, same => cases (List.cons.inj (List.cons.inj same).2).1
        | name :: opening :: front, nested, same =>
            obtain ⟨rfl, sameTail⟩ := List.cons.inj same
            obtain ⟨rfl, sameInside⟩ := List.cons.inj sameTail
            have nestedFront : nestedFrom anyKind (depth + 1) (front.map Token.kind) = true := by
              rw [List.map_cons, nestedFrom_plain rfl rfl, List.map_cons] at nested
              obtain ⟨below, step, nestedRest⟩ := nestedFrom_cons.1 nested
              cases step
              exact nestedRest
            rcases List.append_eq_append_iff.1 sameInside with
              ⟨others, rfl, closing⟩ | ⟨others, rfl, _⟩
            · cases others with
              | nil => cases (List.cons.inj closing).1
              | cons next others => simp at closing
            · have balanced := arguments.nested
              rw [List.map_append] at balanced
              have notNested := not_nestedFrom_of_prefix balanced depth
              rw [Nat.zero_add, nestedFront] at notNested
              cases notNested

theorem ContinuesChain.of_append_semicolon
    (nested : nestedFrom anyKind depth (first.map Token.kind) = true)
    (continues : ContinuesChain (first ++ ⟨.semicolon, line⟩ :: rest)) :
    ContinuesChain first := by
  obtain ⟨arrowLine, tail, same, starts⟩ := continues
  match first, nested, same with
  | [], _, same => cases (List.cons.inj same).1
  | _ :: front, nested, same =>
      obtain ⟨rfl, rfl⟩ := List.cons.inj same
      rw [List.map_cons, nestedFrom_plain rfl rfl] at nested
      exact ⟨arrowLine, front, rfl, starts.of_append_semicolon nested⟩

theorem StartsStatement.of_append_semicolon
    (nested : nestedFrom anyKind depth (first.map Token.kind) = true)
    (starts : StartsStatement (first ++ ⟨.semicolon, line⟩ :: rest)) :
    StartsStatement first := by
  obtain ⟨variableLine, arrowLine, tail, same, startsCall⟩ := starts
  match first, nested, same with
  | [], _, same => cases (List.cons.inj same).1
  | [_], _, same => cases (List.cons.inj (List.cons.inj same).2).1
  | _ :: _ :: front, nested, same =>
      obtain ⟨rfl, sameTail⟩ := List.cons.inj same
      obtain ⟨rfl, rfl⟩ := List.cons.inj sameTail
      rw [List.map_cons, nestedFrom_plain rfl rfl, List.map_cons, nestedFrom_plain rfl rfl]
        at nested
      exact ⟨variableLine, arrowLine, front, rfl, startsCall.of_append_semicolon nested⟩

/-- A call that is read in front of the seam is the same with the seam behind it,
and so is a failure. -/
theorem Call.parse?_append_semicolon
    (nested : nestedFrom anyKind depth (first.map Token.kind) = true) :
    Call.parse? (first ++ ⟨.semicolon, line⟩ :: rest) =
      (Call.parse? first).map fun (call, after) =>
        (call, after ++ ⟨.semicolon, line⟩ :: rest) := by
  cases read : Call.parse? first with
  | none =>
      exact Call.parse?_eq_none_iff.2 fun starts =>
        Call.parse?_eq_none_iff.1 read (starts.of_append_semicolon nested)
  | some found =>
      obtain ⟨written, spelled, whole⟩ := Call.parse?_eq_some_iff.1 read
      exact Call.parse?_eq_some_iff.2 ⟨written, spelled, by rw [← List.append_assoc, whole]⟩

theorem parseModifiers_append_semicolon
    (nested : nestedFrom anyKind depth (first.map Token.kind) = true) :
    parseModifiers (first ++ ⟨.semicolon, line⟩ :: rest) =
      ((parseModifiers first).1,
        (parseModifiers first).2 ++ ⟨.semicolon, line⟩ :: rest) := by
  obtain ⟨written, chain, whole, stops⟩ := parseModifiers_sound first
  rw [← whole] at nested
  have nestedAfter := chain.balanced.nestedFrom_rest nested
  have read := parseModifiers_complete chain
    fun continues : ContinuesChain (_ ++ ⟨.semicolon, line⟩ :: rest) =>
      stops (continues.of_append_semicolon nestedAfter)
  rwa [← List.append_assoc, whole] at read

/-- No chain goes on over the seam, even where it ends in an arrow. -/
theorem Statement.parse?_append_semicolon
    (nested : nestedFrom anyKind depth (first.map Token.kind) = true) :
    Statement.parse? (first ++ ⟨.semicolon, line⟩ :: rest) =
      (Statement.parse? first).map fun (statement, after) =>
        (statement, after ++ ⟨.semicolon, line⟩ :: rest) := by
  rw [Statement.parse?, Statement.parse?, Call.parse?_append_semicolon nested]
  cases read : Call.parse? first with
  | none => rfl
  | some found =>
      obtain ⟨written, spelled, whole⟩ := Call.parse?_eq_some_iff.1 read
      rw [← whole] at nested
      have chain : parseModifiers (found.2 ++ ⟨.semicolon, line⟩ :: rest) =
          ((parseModifiers found.2).1,
            (parseModifiers found.2).2 ++ ⟨.semicolon, line⟩ :: rest) :=
        parseModifiers_append_semicolon (spelled.balanced.nestedFrom_rest nested)
      simp only [Option.map_some, chain]

/-- The statements of tokens that close all brackets, a semicolon and any further
tokens are the statements of both sides. -/
theorem statements_append_semicolon
    (nested : nestedFrom anyKind depth (first.map Token.kind) = true) :
    statements (first ++ ⟨.semicolon, line⟩ :: rest) = statements first ++ statements rest := by
  fun_induction statements first generalizing depth with
  | case1 => exact statements_of_other rfl
  | case2 token tokens statement after found inductionHypothesis =>
      obtain ⟨written, spelled, whole, stops⟩ := statementAt?_eq_some_iff.1 found
      rw [← whole] at nested
      have nestedAfter := spelled.balanced.nestedFrom_rest nested
      have foundJoined : statementAt? (token :: tokens ++ ⟨.semicolon, line⟩ :: rest) =
          some (statement, after ++ ⟨.semicolon, line⟩ :: rest) := by
        refine statementAt?_eq_some_iff.2 ⟨written, spelled, ?_, ?_⟩
        · rw [← List.append_assoc, whole]
        · exact fun continues => stops (continues.of_append_semicolon nestedAfter)
      rw [statements_of_statement foundJoined, inductionHypothesis nestedAfter, List.cons_append]
  | case3 token tokens absent inductionHypothesis =>
      have absentJoined : statementAt? (token :: tokens ++ ⟨.semicolon, line⟩ :: rest) = none :=
        statementAt?_eq_none_iff.2 fun starts =>
          statementAt?_eq_none_iff.1 absent (starts.of_append_semicolon nested)
      obtain ⟨below, _, nestedRest⟩ := nestedFrom_cons.1 nested
      rw [List.cons_append] at absentJoined ⊢
      rw [statements_of_other absentJoined, inductionHypothesis nestedRest]

end Seam

/-! ## The created table -/

theorem createdTableAt?_eq_some_iff {tokens : List Token} {name : String} :
    createdTableAt? tokens = some name ↔
      ∃ schema create first second third fourth fifth rest,
        tokens = ⟨.identifier schema, first⟩ :: ⟨.doubleColon, second⟩ ::
          ⟨.identifier create, third⟩ :: ⟨.openParen, fourth⟩ :: ⟨.text name, fifth⟩ :: rest ∧
        (sameIgnoringCase schema "Schema" && sameIgnoringCase create "create") = true := by
  constructor
  · intro found
    unfold createdTableAt? at found
    split at found
    next =>
      split at found
      next isCreate =>
        cases found
        exact ⟨_, _, _, _, _, _, _, _, rfl, isCreate⟩
      next => cases found
    next => cases found
  · rintro ⟨schema, create, first, second, third, fourth, fifth, rest, rfl, isCreate⟩
    exact if_pos isCreate

theorem length_of_createdTableAt? {tokens : List Token} {name : String}
    (found : createdTableAt? tokens = some name) : 5 ≤ tokens.length := by
  obtain ⟨_, _, _, _, _, _, _, rest, rfl, _⟩ := createdTableAt?_eq_some_iff.1 found
  simp

/-- A create construct is five tokens long. -/
theorem createdTableAt?_append {tokens : List Token} (long : 5 ≤ tokens.length)
    (after : List Token) : createdTableAt? (tokens ++ after) = createdTableAt? tokens := by
  apply Option.ext
  intro name
  rw [createdTableAt?_eq_some_iff, createdTableAt?_eq_some_iff]
  match tokens, long with
  | _ :: _ :: _ :: _ :: _ :: rest, _ => simp

theorem length_of_createdTable? {tokens : List Token} {name : String}
    (found : createdTable? tokens = some name) : 5 ≤ tokens.length := by
  induction tokens with
  | nil => cases found
  | cons token rest inductionHypothesis =>
      rcases Option.or_eq_some_iff.1 found with here | ⟨_, further⟩
      · exact length_of_createdTableAt? here
      · exact Nat.le_succ_of_le (inductionHypothesis further)

/-- The first create construct stays the first one, whatever follows. -/
theorem createdTable?_append {tokens : List Token} {name : String}
    (found : createdTable? tokens = some name) (after : List Token) :
    createdTable? (tokens ++ after) = some name := by
  have long := length_of_createdTable? found
  induction tokens with
  | nil => cases found
  | cons token rest inductionHypothesis =>
      have front := createdTableAt?_append long after
      rw [List.cons_append] at front ⊢
      rw [createdTable?, front]
      rcases Option.or_eq_some_iff.1 found with here | ⟨absent, further⟩
      · rw [here, Option.some_or]
      · rw [absent, Option.none_or]
        exact inductionHypothesis further (length_of_createdTable? further)

end FormRules
