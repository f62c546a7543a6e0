import FormRules.Proofs.Statement.Seam
import Mathlib.Data.List.Infix

/-!
Contract: nesting of brackets as a matter of numbers.

Owns:
- how many brackets some kinds open, and how many they close;
- nesting as a condition on these numbers for every front part of the kinds;
- the seam behind tokens whose numbers are level.

Does not own: which tokens stand directly inside a pair of brackets.

The parser carries a depth that falls and rises, and gives up where it would
fall too far.  The numbers know no such end: they are taken over a front part as
a whole.  `nestedFrom_anyKind_iff` is what makes the two comparable.
-/

namespace FormRules

/-! ## Numbers of brackets -/

def openings (kinds : List Token.Kind) : Nat :=
  kinds.countP Token.Kind.opens

def closings (kinds : List Token.Kind) : Nat :=
  kinds.countP Token.Kind.closes

@[simp]
theorem openings_nil : openings [] = 0 := rfl

@[simp]
theorem closings_nil : closings [] = 0 := rfl

theorem openings_append (first second : List Token.Kind) :
    openings (first ++ second) = openings first + openings second :=
  List.countP_append

theorem closings_append (first second : List Token.Kind) :
    closings (first ++ second) = closings first + closings second :=
  List.countP_append

theorem openings_cons (kind : Token.Kind) (rest : List Token.Kind) :
    openings (kind :: rest) = openings [kind] + openings rest :=
  openings_append [kind] rest

theorem closings_cons (kind : Token.Kind) (rest : List Token.Kind) :
    closings (kind :: rest) = closings [kind] + closings rest :=
  closings_append [kind] rest

/-- No kind both opens a bracket and closes one. -/
theorem openings_add_closings_le (kind : Token.Kind) :
    openings [kind] + closings [kind] ≤ 1 := by
  unfold openings closings
  cases kind <;> simp [Token.Kind.opens, Token.Kind.closes]

/-- The depth behind a kind is the depth in front of it, with what the kind opens
and without what it closes. -/
theorem depthAfter?_anyKind_iff {kind : Token.Kind} {depth below : Nat} :
    depthAfter? anyKind kind depth = some below ↔
      below + closings [kind] = depth + openings [kind] := by
  unfold depthAfter? openings closings
  rw [List.countP_singleton, List.countP_singleton]
  -- Only a closing bracket looks at the depth: at zero it finds nothing to close.
  cases kind <;>
    simp only [Token.Kind.opens, Token.Kind.closes, anyKind, if_true, if_false, Bool.or_true,
      Bool.false_eq_true, Option.some.injEq] <;>
    first | omega | (split <;> simp <;> omega)

/-! ## Nesting by numbers -/

/-- Kinds are nested just if no front part of them closes more brackets than are
open, and all of them together close as many. -/
theorem nestedFrom_anyKind_iff {depth : Nat} {kinds : List Token.Kind} :
    nestedFrom anyKind depth kinds = true ↔
      (∀ front ∈ kinds.inits, closings front ≤ depth + openings front) ∧
        closings kinds = depth + openings kinds := by
  induction kinds generalizing depth with
  | nil =>
      have never : ∀ front ∈ [].inits, closings front ≤ depth + openings front := by
        simp [List.inits]
      rw [nestedFrom, beq_iff_eq, and_iff_right never]
      exact eq_comm
  | cons kind rest inductionHypothesis =>
      rw [nestedFrom_cons, closings_cons kind rest, openings_cons kind rest]
      constructor
      · rintro ⟨below, step, nested⟩
        obtain ⟨never, level⟩ := inductionHypothesis.1 nested
        have balance := depthAfter?_anyKind_iff.1 step
        refine ⟨?_, by omega⟩
        intro front isFront
        rcases List.prefix_cons_iff.1 ((List.mem_inits _ _).1 isFront) with rfl | ⟨tail, rfl, isTail⟩
        · simp
        · have atMost := never tail ((List.mem_inits _ _).2 isTail)
          rw [closings_cons, openings_cons]
          omega
      · rintro ⟨never, level⟩
        have isFront : [kind] ∈ (kind :: rest).inits := (List.mem_inits _ _).2 ⟨rest, rfl⟩
        have first := never [kind] isFront
        have balance : depth + openings [kind] - closings [kind] + closings [kind] =
            depth + openings [kind] := Nat.sub_add_cancel first
        refine ⟨_, depthAfter?_anyKind_iff.2 balance, inductionHypothesis.2 ⟨?_, by omega⟩⟩
        intro front isTail
        have atMost := never (kind :: front) ((List.mem_inits _ _).2
          ((List.prefix_cons_inj kind).2 ((List.mem_inits _ _).1 isTail)))
        rw [closings_cons, openings_cons] at atMost
        omega

/-- Numbers that never become level do not pass each other: one kind closes one
bracket at most. -/
theorem closings_le_of_never_level {kinds : List Token.Kind}
    (never : ∀ front, front <+: kinds → closings front ≠ openings front + 1)
    {front : List Token.Kind} (isFront : front <+: kinds) :
    closings front ≤ openings front := by
  induction front using List.reverseRecOn with
  | nil => simp
  | append_singleton front kind inductionHypothesis =>
      have before := inductionHypothesis ((List.prefix_append front [kind]).trans isFront)
      have notLevel := never _ isFront
      have single := openings_add_closings_le kind
      rw [closings_append, openings_append] at notLevel ⊢
      omega

/-- Kinds that a closing bracket ends are nested just if with that bracket, and
not sooner, one more bracket is closed than opened. -/
theorem nestedFrom_and_closes_iff {inside : List Token.Kind} {closing : Token.Kind} :
    nestedFrom anyKind 0 inside = true ∧ closing.closes = true ↔
      closings (inside ++ [closing]) = openings (inside ++ [closing]) + 1 ∧
        ∀ front, front <+: inside → closings front ≠ openings front + 1 := by
  have single := openings_add_closings_le closing
  have bracket : closing.closes = true ↔ closings [closing] = 1 := by
    simp [closings]
  rw [nestedFrom_anyKind_iff, bracket, closings_append, openings_append]
  constructor
  · rintro ⟨⟨never, level⟩, closes⟩
    refine ⟨by omega, fun front isFront => ?_⟩
    have atMost := never front ((List.mem_inits _ _).2 isFront)
    omega
  · rintro ⟨level, never⟩
    have atEnd := closings_le_of_never_level never (List.prefix_refl _)
    refine ⟨⟨fun front isFront => ?_, by omega⟩, by omega⟩
    rw [Nat.zero_add]
    exact closings_le_of_never_level never ((List.mem_inits _ _).1 isFront)

/-- Tokens are balanced just if none of their front parts closes more brackets
than it opens, and all of them together close as many. -/
theorem balanced_iff {tokens : List Token} :
    Balanced tokens ↔
      (∀ front ∈ (tokens.map Token.kind).inits, closings front ≤ openings front) ∧
        closings (tokens.map Token.kind) = openings (tokens.map Token.kind) := by
  rw [Balanced, nestedFrom_anyKind_iff]
  simp only [Nat.zero_add]

/-- A rest of nested tokens closes what is open in front of it. -/
theorem exists_nestedFrom_of_suffix {depth : Nat} {tail tokens : List Token}
    (nested : nestedFrom anyKind depth (tokens.map Token.kind) = true)
    (isTail : tail <:+ tokens) :
    ∃ below, nestedFrom anyKind below (tail.map Token.kind) = true := by
  induction tokens generalizing depth with
  | nil => exact ⟨depth, List.suffix_nil.1 isTail ▸ nested⟩
  | cons token rest inductionHypothesis =>
      rcases List.suffix_cons_iff.1 isTail with rfl | further
      · exact ⟨depth, nested⟩
      · obtain ⟨below, _, nestedRest⟩ := nestedFrom_cons.1 nested
        exact inductionHypothesis nestedRest further

/-! ## The seam by numbers -/

/-- A semicolon behind tokens that never close more brackets than they have
opened, and in the end have closed as many, parts the token list.  The statements
are those of both sides, and from every index in front of the semicolon a call and
a chain are read just as without the semicolon and what follows. -/
theorem statements_append_of_level {first : List Token} (line : Nat) (rest : List Token)
    (never : ∀ front ∈ (first.map Token.kind).inits, closings front ≤ openings front)
    (level : closings (first.map Token.kind) = openings (first.map Token.kind)) :
    statements (first ++ ⟨.semicolon, line⟩ :: rest) = statements first ++ statements rest ∧
      ∀ tail, tail <:+ first →
        Call.parse? (tail ++ ⟨.semicolon, line⟩ :: rest) =
            (Call.parse? tail).map
              (fun (call, after) => (call, after ++ ⟨.semicolon, line⟩ :: rest)) ∧
          Statement.parse? (tail ++ ⟨.semicolon, line⟩ :: rest) =
            (Statement.parse? tail).map
              (fun (statement, after) => (statement, after ++ ⟨.semicolon, line⟩ :: rest)) := by
  have nested : nestedFrom anyKind 0 (first.map Token.kind) = true :=
    balanced_iff.2 ⟨never, level⟩
  refine ⟨statements_append_semicolon nested, fun tail isTail => ?_⟩
  obtain ⟨below, nestedTail⟩ := exists_nestedFrom_of_suffix nested isTail
  exact ⟨Call.parse?_append_semicolon nestedTail, Statement.parse?_append_semicolon nestedTail⟩

/-- A call that a square bracket closes, a chain that ends in an arrow, and behind
the semicolon a call that would continue it. -/
theorem statements_append_of_level_dangling_arrow :
    let first : List Token :=
      [⟨.variable "table", 1⟩, ⟨.arrow, 1⟩, ⟨.identifier "index", 1⟩, ⟨.openParen, 1⟩,
        ⟨.closeBracket, 1⟩, ⟨.variable "table", 1⟩, ⟨.arrow, 1⟩, ⟨.identifier "id", 1⟩,
        ⟨.openParen, 1⟩, ⟨.closeParen, 1⟩, ⟨.arrow, 1⟩]
    let rest : List Token :=
      [⟨.identifier "unique", 2⟩, ⟨.openParen, 2⟩, ⟨.closeParen, 2⟩, ⟨.variable "table", 2⟩,
        ⟨.arrow, 2⟩, ⟨.identifier "text", 2⟩, ⟨.openParen, 2⟩, ⟨.closeParen, 2⟩]
    ((∀ front ∈ (first.map Token.kind).inits, closings front ≤ openings front) ∧
      closings (first.map Token.kind) = openings (first.map Token.kind)) ∧
    statements (first ++ ⟨.semicolon, 1⟩ :: rest) =
      [⟨⟨"id", [], 1⟩, []⟩, ⟨⟨"text", [], 2⟩, []⟩] := by
  intro first rest
  have never : ∀ front ∈ (first.map Token.kind).inits, closings front ≤ openings front := by
    decide
  have level : closings (first.map Token.kind) = openings (first.map Token.kind) := by decide
  have found : statements first ++ statements rest =
      [⟨⟨"id", [], 1⟩, []⟩, ⟨⟨"text", [], 2⟩, []⟩] := by
    simp [first, rest, statements, statementAt?, afterBlueprint?, blueprintVariable,
      Statement.parse?, Call.parse?, parseModifiers, argumentGroups, dropEmptyLast,
      Token.Kind.opens, Token.Kind.closes]
  exact ⟨⟨never, level⟩, (statements_append_of_level 1 rest never level).1.trans found⟩

end FormRules
