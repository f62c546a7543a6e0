import FormRules.Proofs.Statement.Grammar
import Mathlib.Data.List.Forall2

/-!
Contract: where in a token list its statements stand.

Owns:
- the span of a statement, taken as far as its chain goes;
- the invariant of the search: the spans found from an index on lie behind one
  another, and hold every index from there on at which a statement starts;
- the spans of all statements of a token list.

Does not own: the written form of a statement.
-/

namespace FormRules

/-- The indices from `start` up to, but without, `stop`. -/
structure Span where
  start : Nat
  stop : Nat
deriving DecidableEq, Repr

/-- The tokens of the span spell the statement, and behind them its chain does
not go on. -/
structure Statement.StandsAt (tokens : List Token) (statement : Statement) (span : Span) :
    Prop where
  fits : span.stop ≤ tokens.length
  spelled : statement.SpelledBy (tokens.extract span.start span.stop)
  longest : ¬ContinuesChain (tokens.drop span.stop)

theorem Statement.StandsAt.startsStatement {tokens : List Token} {statement : Statement}
    {span : Span} (stands : statement.StandsAt tokens span) :
    StartsStatement (tokens.drop span.start) := by
  have whole := stands.spelled.startsStatement ((tokens.drop span.start).drop (span.stop - span.start))
  rwa [List.extract_eq_take_drop, List.take_append_drop] at whole

theorem Statement.standsAt_of_statementAt? {tokens after : List Token} {start : Nat}
    {statement : Statement} (found : statementAt? (tokens.drop start) = some (statement, after)) :
    ∃ stop, start ≤ stop ∧ tokens.drop stop = after ∧ statement.StandsAt tokens ⟨start, stop⟩ := by
  obtain ⟨written, spelled, whole, stops⟩ := statementAt?_eq_some_iff.1 found
  have behind : tokens.drop (start + written.length) = after := by
    rw [← List.drop_drop, ← whole, List.drop_left]
  have nonempty : tokens.drop start ≠ [] := by
    intro empty
    rw [empty] at found
    cases found
  have total := congrArg List.length whole
  rw [List.length_append, List.length_drop] at total
  have inside : start < tokens.length := by
    simpa using nonempty
  refine ⟨start + written.length, Nat.le_add_right _ _, behind, ?_, ?_, behind.symm ▸ stops⟩
  · change start + written.length ≤ tokens.length
    omega
  · rw [List.extract_eq_take_drop, Nat.add_sub_cancel_left, ← whole, List.take_left]
    exact spelled

/-! ## The search -/

/-- The statements that a search from `start` on finds, and their spans. -/
structure FoundFrom (tokens : List Token) (start : Nat) (found : List Statement)
    (spans : List Span) : Prop where
  stand : List.Forall₂ (Statement.StandsAt tokens) found spans
  apart : spans.Pairwise fun earlier later => earlier.stop ≤ later.start
  behind : ∀ span ∈ spans, start ≤ span.start
  starts : ∀ span ∈ spans, StartsStatement (tokens.drop span.start)
  complete : ∀ index, start ≤ index → StartsStatement (tokens.drop index) →
    ∃ span ∈ spans, span.start ≤ index ∧ index < span.stop

namespace FoundFrom

variable {tokens : List Token} {start : Nat} {found : List Statement} {spans : List Span}

theorem nil (ended : tokens.drop start = []) : FoundFrom tokens start [] [] := by
  refine ⟨.nil, .nil, by simp, by simp, ?_⟩
  rintro index further ⟨line, arrowLine, rest, starts, _⟩
  rw [List.drop_eq_nil_of_le (Nat.le_trans (List.drop_eq_nil_iff.1 ended) further)] at starts
  cases starts

theorem cons {statement : Statement} {stop : Nat} (forward : start ≤ stop)
    (stands : statement.StandsAt tokens ⟨start, stop⟩)
    (rest : FoundFrom tokens stop found spans) :
    FoundFrom tokens start (statement :: found) (⟨start, stop⟩ :: spans) := by
  refine ⟨.cons stands rest.stand, .cons rest.behind rest.apart, ?_,
    List.forall_mem_cons.2 ⟨stands.startsStatement, rest.starts⟩, ?_⟩
  · intro span member
    rcases List.mem_cons.1 member with rfl | member
    · exact Nat.le_refl _
    · exact Nat.le_trans forward (rest.behind span member)
  · intro index further starts
    -- An index in front of the stop lies in the new span, whatever starts there.
    by_cases within : index < stop
    · exact ⟨⟨start, stop⟩, List.mem_cons_self, further, within⟩
    · obtain ⟨span, member, holds⟩ := rest.complete index (Nat.le_of_not_lt within) starts
      exact ⟨span, List.mem_cons_of_mem _ member, holds⟩

theorem skip (noStatement : ¬StartsStatement (tokens.drop start))
    (rest : FoundFrom tokens (start + 1) found spans) :
    FoundFrom tokens start found spans := by
  refine ⟨rest.stand, rest.apart, ?_, rest.starts, ?_⟩
  · intro span member
    exact Nat.le_of_succ_le (rest.behind span member)
  · intro index further starts
    rcases Nat.eq_or_lt_of_le further with rfl | beyond
    · exact absurd starts noStatement
    · exact rest.complete index beyond starts

end FoundFrom

theorem exists_foundFrom (tokens : List Token) (start : Nat) :
    ∃ spans, FoundFrom tokens start (statements (tokens.drop start)) spans := by
  generalize same : tokens.drop start = remaining
  fun_induction statements remaining generalizing start with
  | case1 => exact ⟨[], .nil same⟩
  | case2 token rest statement after found inductionHypothesis =>
      rw [← same] at found
      obtain ⟨stop, forward, behind, stands⟩ := Statement.standsAt_of_statementAt? found
      obtain ⟨spans, others⟩ := inductionHypothesis stop behind
      exact ⟨⟨start, stop⟩ :: spans, others.cons forward stands⟩
  | case3 token rest absent inductionHypothesis =>
      rw [← same] at absent
      have behind : tokens.drop (start + 1) = rest := by
        rw [← List.drop_drop, same, List.drop_one, List.tail_cons]
      obtain ⟨spans, others⟩ := inductionHypothesis (start + 1) behind
      exact ⟨spans, others.skip (statementAt?_eq_none_iff.1 absent)⟩

/-- The statements of a token list stand one behind the other, each spelled by
the tokens of its span and taken as far as its chain goes.  A span starts only
where the blueprint variable, an arrow and a complete call stand, and every index
at which they do is in a span. -/
theorem statements_spans (tokens : List Token) :
    ∃ spans : List Span,
      List.Forall₂ (Statement.StandsAt tokens) (statements tokens) spans ∧
      spans.Pairwise (fun earlier later => earlier.stop ≤ later.start) ∧
      (∀ span ∈ spans, StartsStatement (tokens.drop span.start)) ∧
      ∀ index, StartsStatement (tokens.drop index) →
        ∃ span ∈ spans, span.start ≤ index ∧ index < span.stop := by
  obtain ⟨spans, found⟩ := exists_foundFrom tokens 0
  exact ⟨spans, found.stand, found.apart, found.starts,
    fun index => found.complete index (Nat.zero_le _)⟩

end FormRules
