import FormRules.Proofs.Statement.Brackets

/-!
Contract: calls by the places of their brackets and commas.

Owns:
- the pieces of a list between given indices;
- the commas outside all brackets, found by the numbers of brackets in front of
  them, and the groups between these commas;
- the index at which a call closes: the first one up to which the numbers of
  brackets are level;
- the agreement of the parser of calls with both.

Does not own: chains of calls.

The grammar of calls is inductive and knows no indices.  Both sides meet in one
step: a kind in front of a list moves every comma by one and goes to the first
group, or is a comma itself and begins a group.
-/

namespace FormRules

/-! ## Pieces between indices -/

/-- The pieces of a list between the items at the given indices. -/
def between {α : Type} (cuts : List Nat) (items : List α) : List (List α) :=
  List.zipWith (fun left right => items.extract left right) (0 :: cuts.map (· + 1))
    (cuts ++ [items.length])

@[simp]
theorem between_nil {α : Type} (items : List α) : between [] items = [items] := by
  simp [between]

/-- Indices that all lie behind the first item do not see it. -/
theorem zipWith_extract_cons {α : Type} (item : α) (items : List α) (lefts rights : List Nat) :
    List.zipWith (fun left right => (item :: items).extract left right) (lefts.map (· + 1))
        (rights.map (· + 1)) =
      List.zipWith (fun left right => items.extract left right) lefts rights := by
  rw [List.zipWith_map]
  congr 1
  funext left right
  simp

theorem between_zero_cons {α : Type} (cuts : List Nat) (item : α) (items : List α) :
    between (0 :: cuts.map (· + 1)) (item :: items) = [] :: between cuts items := by
  have ends : cuts.map (· + 1) ++ [(item :: items).length] =
      (cuts ++ [items.length]).map (· + 1) := by simp
  rw [between, List.cons_append, ends, List.zipWith_cons_cons, zipWith_extract_cons]
  rfl

theorem between_succ_cons (cuts : List Nat) (kind : Token.Kind) (kinds : List Token.Kind) :
    between (cuts.map (· + 1)) (kind :: kinds) = ontoFirst kind (between cuts kinds) := by
  cases cuts with
  | nil => simp [ontoFirst]
  | cons first more =>
      have ends : more.map (· + 1) ++ [(kind :: kinds).length] =
          (more ++ [kinds.length]).map (· + 1) := by simp
      rw [between, List.map_cons, List.cons_append, ends, List.zipWith_cons_cons,
        zipWith_extract_cons, between, List.cons_append, List.map_cons, List.zipWith_cons_cons]
      simp [ontoFirst]

/-! ## Groups -/

/-- The indices of the commas outside all brackets, where `depth` brackets are
open in front of the kinds. -/
def separators (depth : Nat) (kinds : List Token.Kind) : List Nat :=
  (List.range kinds.length).filter fun index =>
    kinds[index]? = some .comma ∧
      closings (kinds.take index) = depth + openings (kinds.take index)

theorem separators_cons {depth below : Nat} {kind : Token.Kind} (rest : List Token.Kind)
    (step : depthAfter? anyKind kind depth = some below) :
    separators depth (kind :: rest) =
      (if kind = .comma ∧ depth = 0 then [0] else []) ++ (separators below rest).map (· + 1) := by
  have balance := depthAfter?_anyKind_iff.1 step
  have shifted : ∀ index, closings ((kind :: rest).take (index + 1)) =
      depth + openings ((kind :: rest).take (index + 1)) ↔
        closings (rest.take index) = below + openings (rest.take index) := by
    intro index
    rw [List.take_succ_cons, closings_cons, openings_cons]
    omega
  unfold separators
  rw [List.length_cons, List.range_succ_eq_map, List.filter_cons, List.filter_map]
  simp only [Function.comp_def, Nat.succ_eq_add_one, shifted]
  by_cases separates : kind = .comma ∧ depth = 0
  · simp [separates]
  · simp [separates, eq_comm]

/-- The groups between the commas outside all brackets. -/
def groupsFrom (depth : Nat) (kinds : List Token.Kind) : List (List Token.Kind) :=
  between (separators depth kinds) kinds

/-- A kind that nests as in a group is any kind but a comma outside all
brackets. -/
theorem depthAfter?_notComma_iff {kind : Token.Kind} {depth below : Nat} :
    depthAfter? notComma kind depth = some below ↔
      depthAfter? anyKind kind depth = some below ∧ ¬(kind = .comma ∧ depth = 0) := by
  cases kind <;> cases depth <;>
    simp [depthAfter?, notComma, anyKind, Token.Kind.opens, Token.Kind.closes]

theorem groupsFrom_cons {depth below : Nat} {kind : Token.Kind} (rest : List Token.Kind)
    (step : depthAfter? notComma kind depth = some below) :
    groupsFrom depth (kind :: rest) = ontoFirst kind (groupsFrom below rest) := by
  obtain ⟨anyStep, notSeparates⟩ := depthAfter?_notComma_iff.1 step
  rw [groupsFrom, separators_cons rest anyStep, if_neg notSeparates, List.nil_append,
    between_succ_cons, groupsFrom]

theorem groupsFrom_comma (rest : List Token.Kind) :
    groupsFrom 0 (.comma :: rest) = [] :: groupsFrom 0 rest := by
  have step : depthAfter? anyKind .comma 0 = some 0 := rfl
  rw [groupsFrom, separators_cons rest step, if_pos ⟨rfl, rfl⟩, List.singleton_append,
    between_zero_cons, groupsFrom]

/-! ## Argument lists -/

theorem argumentsFrom_nil_iff {depth : Nat} {groups : List (List Token.Kind)} :
    ArgumentsFrom depth [] groups ↔ depth = 0 ∧ groups = [[]] := by
  constructor
  · intro arguments
    generalize written : [] = inside at arguments
    cases arguments with
    | last nested =>
        subst written
        exact ⟨by simpa [nestedFrom] using nested, rfl⟩
    | more => simp at written
  · rintro ⟨rfl, rfl⟩
    exact .last rfl

theorem argumentsFrom_cons_iff {depth : Nat} {kind : Token.Kind} {inside : List Token.Kind}
    {groups : List (List Token.Kind)} :
    ArgumentsFrom depth (kind :: inside) groups ↔
      (∃ below others, depthAfter? notComma kind depth = some below ∧
        ArgumentsFrom below inside others ∧ groups = ontoFirst kind others) ∨
      (kind = .comma ∧ depth = 0 ∧ ∃ others, ArgumentsFrom 0 inside others ∧
        groups = [] :: others) := by
  constructor
  · intro arguments
    generalize written : kind :: inside = kinds at arguments
    cases arguments with
    | last nested =>
        subst written
        obtain ⟨below, step, nestedRest⟩ := nestedFrom_cons.1 nested
        exact .inl ⟨below, [inside], step, .last nestedRest, rfl⟩
    | @more depth group tail others nested arguments =>
        cases group with
        | nil =>
            obtain ⟨rfl, rfl⟩ := List.cons.inj written
            exact .inr ⟨rfl, by simpa [nestedFrom] using nested, others, arguments, rfl⟩
        | cons first group =>
            obtain ⟨rfl, rfl⟩ := List.cons.inj written
            obtain ⟨below, step, nestedRest⟩ := nestedFrom_cons.1 nested
            exact .inl ⟨below, group :: others, step, .more nestedRest arguments, rfl⟩
  · rintro (⟨below, others, step, arguments, rfl⟩ | ⟨rfl, rfl, others, arguments, rfl⟩)
    · exact arguments.onto step
    · have emptyGroup : nestedFrom notComma 0 [] = true := rfl
      exact .more emptyGroup arguments

/-- The groups of an argument list are what stands between its commas outside all
brackets. -/
theorem argumentsFrom_iff {depth : Nat} {inside : List Token.Kind}
    {groups : List (List Token.Kind)} :
    ArgumentsFrom depth inside groups ↔
      nestedFrom anyKind depth inside = true ∧ groups = groupsFrom depth inside := by
  induction inside generalizing depth groups with
  | nil =>
      rw [argumentsFrom_nil_iff]
      simp [nestedFrom, groupsFrom, separators]
  | cons kind rest inductionHypothesis =>
      rw [argumentsFrom_cons_iff, nestedFrom_cons]
      constructor
      · rintro (⟨below, others, step, arguments, rfl⟩ | ⟨rfl, rfl, others, arguments, rfl⟩)
        · obtain ⟨nested, rfl⟩ := inductionHypothesis.1 arguments
          exact ⟨⟨below, depthAfter?_anyKind step, nested⟩, (groupsFrom_cons rest step).symm⟩
        · obtain ⟨nested, rfl⟩ := inductionHypothesis.1 arguments
          exact ⟨⟨0, rfl, nested⟩, (groupsFrom_comma rest).symm⟩
      · rintro ⟨⟨below, step, nested⟩, rfl⟩
        have arguments := inductionHypothesis.2 ⟨nested, rfl⟩
        by_cases separates : kind = .comma ∧ depth = 0
        · obtain ⟨rfl, rfl⟩ := separates
          cases step
          exact .inr ⟨rfl, rfl, _, arguments, groupsFrom_comma rest⟩
        · have inGroup := depthAfter?_notComma_iff.2 ⟨step, separates⟩
          exact .inl ⟨below, _, inGroup, arguments, groupsFrom_cons rest inGroup⟩

/-! ## The closing parenthesis -/

/-- Of the tokens behind `start` up to the one at `index`, as many close a bracket
as open one. -/
def IsLevelAt (tokens : List Token) (start index : Nat) : Prop :=
  closings ((tokens.extract (start + 1) (index + 1)).map Token.kind) =
    openings ((tokens.extract (start + 1) (index + 1)).map Token.kind)

/-- The first index behind `start` up to which the brackets are level. -/
structure ClosesAt (tokens : List Token) (start close : Nat) : Prop where
  behind : start < close
  within : close < tokens.length
  level : IsLevelAt tokens start close
  first : ∀ index, start < index → index < close → ¬IsLevelAt tokens start index

theorem isLevelAt_drop (tokens : List Token) (start index : Nat) :
    IsLevelAt (tokens.drop start) 0 index ↔ IsLevelAt tokens start (start + index) := by
  have same : (tokens.drop start).extract (0 + 1) (index + 1) =
      tokens.extract (start + 1) (start + index + 1) := by
    rw [List.extract_eq_take_drop, List.extract_eq_take_drop, List.drop_drop]
    congr 1
    omega
  rw [IsLevelAt, IsLevelAt, same]

theorem closesAt_drop {tokens : List Token} {start offset : Nat} :
    ClosesAt (tokens.drop start) 0 offset ↔ ClosesAt tokens start (start + offset) := by
  constructor
  · rintro ⟨behind, within, level, first⟩
    rw [List.length_drop] at within
    refine ⟨by omega, by omega, (isLevelAt_drop _ _ _).1 level, fun index isBehind before => ?_⟩
    have earlier := first (index - start) (by omega) (by omega)
    rwa [isLevelAt_drop, Nat.add_sub_cancel' (Nat.le_of_lt isBehind)] at earlier
  · rintro ⟨behind, within, level, first⟩
    refine ⟨by omega, ?_, (isLevelAt_drop _ _ _).2 level, fun index isBehind before => ?_⟩
    · rw [List.length_drop]
      omega
    · rw [isLevelAt_drop]
      exact first (start + index) (by omega) (by omega)

section Closing

variable {name opening closing : Token} {inside after : List Token}
  (isParen : opening.kind = .openParen)

include isParen

/-- The parenthesis itself counts as opened. -/
theorem isLevelAt_cons (rest : List Token) (count : Nat) :
    IsLevelAt (name :: opening :: rest) 0 (count + 1) ↔
      closings ((rest.take count).map Token.kind) =
        openings ((rest.take count).map Token.kind) + 1 := by
  have read : (name :: opening :: rest).extract (0 + 1) (count + 1 + 1) =
      opening :: rest.take count := by simp
  have opens : openings [Token.Kind.openParen] = 1 ∧ closings [Token.Kind.openParen] = 0 := by
    decide
  rw [IsLevelAt, read, List.map_cons, isParen, closings_cons, openings_cons]
  omega

/-- A pair of brackets closes where what stands in it is nested. -/
theorem closesAt_iff :
    ClosesAt (name :: opening :: (inside ++ closing :: after)) 0 (inside.length + 2) ↔
      nestedFrom anyKind 0 (inside.map Token.kind) = true ∧ closing.kind.closes = true := by
  have whole : ((inside ++ closing :: after).take (inside.length + 1)).map Token.kind =
      inside.map Token.kind ++ [closing.kind] := by
    rw [List.take_append, List.take_of_length_le (Nat.le_succ _)]
    simp
  have earlier : ∀ {count}, count ≤ inside.length →
      ((inside ++ closing :: after).take count).map Token.kind =
        (inside.map Token.kind).take count := by
    intro count fits
    rw [List.take_append_of_le_length fits, List.map_take]
  rw [nestedFrom_and_closes_iff]
  constructor
  · rintro ⟨_, _, level, first⟩
    rw [isLevelAt_cons isParen, whole] at level
    refine ⟨level, fun front isFront => ?_⟩
    have fits : front.length ≤ inside.length := by
      simpa using isFront.length_le
    have notLevel := first (front.length + 1) (Nat.succ_pos _) (by omega)
    rwa [isLevelAt_cons isParen, earlier fits, ← List.prefix_iff_eq_take.1 isFront] at notLevel
  · rintro ⟨level, never⟩
    refine ⟨Nat.succ_pos _, by simp, ?_, ?_⟩
    · rwa [isLevelAt_cons isParen, whole]
    · rintro (_ | count) behind before
      · cases behind
      · rw [isLevelAt_cons isParen, earlier (by omega)]
        exact never _ (List.take_prefix _ _)

theorem ClosesAt.exists_inside {rest : List Token} {close : Nat}
    (closes : ClosesAt (name :: opening :: rest) 0 close) :
    ∃ inside closing after, rest = inside ++ closing :: after ∧ close = inside.length + 2 := by
  obtain ⟨behind, within, level, _⟩ := closes
  match close, behind, level, within with
  | 1, _, level, _ =>
      rw [isLevelAt_cons isParen] at level
      simp at level
  | count + 2, _, _, within =>
      have fits : count < rest.length := by simpa using within
      refine ⟨rest.take count, rest[count], rest.drop (count + 1), ?_, ?_⟩
      · rw [← List.drop_eq_getElem_cons fits, List.take_append_drop]
      · rw [List.length_take_of_le (Nat.le_of_lt fits)]

end Closing

/-! ## Calls -/

/-- The arguments of a call, inside whose parentheses the given kinds stand.  An
empty last group is none; any other empty group is an expression. -/
def argumentsIn (inside : List Token.Kind) : List Argument :=
  (dropEmptyLast (groupsFrom 0 inside)).map Argument.ofGroup

theorem Call.parse?_eq_some_iff_closesAt {tokens after : List Token} {call : Call} :
    Call.parse? tokens = some (call, after) ↔
      ∃ close,
        tokens[0]? = some ⟨.identifier call.name, call.line⟩ ∧
        tokens[1]?.map Token.kind = some .openParen ∧
        ClosesAt tokens 0 close ∧
        tokens[close]?.map Token.kind = some .closeParen ∧
        call.arguments = argumentsIn ((tokens.extract 2 close).map Token.kind) ∧
        after = tokens.drop (close + 1) := by
  rw [Call.parse?_eq_some_iff]
  constructor
  · rintro ⟨_, ⟨openLine, inside, closeLine, groups, rfl, arguments, same⟩, rfl⟩
    obtain ⟨nested, rfl⟩ := argumentsFrom_iff.1 arguments
    rw [List.cons_append, List.cons_append, List.append_assoc, List.singleton_append]
    have closes : ClosesAt (⟨.identifier call.name, call.line⟩ :: ⟨.openParen, openLine⟩ ::
        (inside ++ ⟨.closeParen, closeLine⟩ :: after)) 0 (inside.length + 2) :=
      (closesAt_iff rfl).2 ⟨nested, rfl⟩
    refine ⟨inside.length + 2, rfl, rfl, closes, by simp, ?_, by simp⟩
    simp [argumentsIn, same]
  · rintro ⟨close, isName, isParen, closes, isClosing, same, rfl⟩
    match tokens, isName, isParen with
    | _ :: opening :: rest, rfl, isParen =>
        replace isParen : opening.kind = .openParen := by simpa using isParen
        obtain ⟨inside, closing, after, rfl, rfl⟩ := closes.exists_inside isParen
        obtain ⟨nested, _⟩ := (closesAt_iff isParen).1 closes
        obtain ⟨kind, openLine⟩ := opening
        obtain ⟨closingKind, closeLine⟩ := closing
        replace isClosing : closingKind = .closeParen := by simpa using isClosing
        cases isParen
        cases isClosing
        have arguments := argumentsFrom_iff.2 ⟨nested, rfl⟩
        refine ⟨_, ⟨openLine, inside, closeLine, _, rfl, arguments, ?_⟩, by simp⟩
        rw [same]
        simp [argumentsIn]

/-- A call is read from an index on just if a name and an opening parenthesis
stand there and the first index behind, up to which as many brackets are closed as
opened, holds a closing parenthesis.  What is left begins behind that index, and
the arguments are what stands between the commas directly inside the
parentheses. -/
theorem Call.parse?_drop_eq_some_iff {tokens after : List Token} {start : Nat} {call : Call} :
    Call.parse? (tokens.drop start) = some (call, after) ↔
      ∃ close,
        tokens[start]? = some ⟨.identifier call.name, call.line⟩ ∧
        tokens[start + 1]?.map Token.kind = some .openParen ∧
        ClosesAt tokens start close ∧
        tokens[close]?.map Token.kind = some .closeParen ∧
        call.arguments = argumentsIn ((tokens.extract (start + 2) close).map Token.kind) ∧
        after = tokens.drop (close + 1) := by
  have moved : ∀ offset, (tokens.drop start).extract 2 offset =
      tokens.extract (start + 2) (start + offset) := by
    intro offset
    rw [List.extract_eq_take_drop, List.extract_eq_take_drop, List.drop_drop]
    congr 1
    omega
  rw [Call.parse?_eq_some_iff_closesAt]
  simp only [List.getElem?_drop, closesAt_drop, moved, List.drop_drop, Nat.add_zero]
  constructor
  · rintro ⟨offset, found⟩
    exact ⟨start + offset, by simpa only [Nat.add_assoc] using found⟩
  · rintro ⟨close, isName, isParen, closes, found⟩
    obtain ⟨offset, rfl⟩ := Nat.exists_eq_add_of_lt closes.behind
    exact ⟨offset + 1, isName, isParen, closes, by simpa only [Nat.add_assoc] using found⟩

/-- A comma in inner brackets does not part two groups, and the one at the end
begins none. -/
example : argumentsIn [.openBracket, .number "1", .comma, .number "2", .closeBracket, .comma,
    .comma, .text "a", .comma] = [.expression, .expression, .text "a"] := by
  decide

end FormRules
