import FormRules.Proofs.Token.Lexeme

/-!
Contract: a source as the pieces that its tokens are written in.

Owns:
- splits of a source into gaps, lexemes, and what is left at the end;
- every source has a split into the tokens of its scan;
- a source has no split into other tokens.

Does not own: the shapes of gaps and lexemes.
-/

namespace FormRules.Token

open FormRules.Text

/-! ## Splits -/

/-- A token, the characters it is written in, and the gap in front of it. -/
structure Piece where
  gap : List Char
  written : List Char
  token : Token

def Piece.text (piece : Piece) : List Char :=
  piece.gap ++ piece.written

def joined (pieces : List Piece) : List Char :=
  pieces.flatMap Piece.text

/-- A source whose first line has the given number, cut into pieces, a last gap
and a remainder.  Every token counts the line feeds in front of it; the
remainder is empty or starts with a literal that never closes. -/
structure IsSplit (line : Nat) (source : List Char) (pieces : List Piece)
    (lastGap remainder : List Char) : Prop where
  text : source = joined pieces ++ (lastGap ++ remainder)
  gaps : ∀ before piece after, pieces = before ++ piece :: after →
    IsGap (piece.written ++ (joined after ++ (lastGap ++ remainder))) piece.gap
  lexemes : ∀ before piece after, pieces = before ++ piece :: after →
    IsLexeme (joined after ++ (lastGap ++ remainder)) piece.token.kind piece.written
  lines : ∀ before piece after, pieces = before ++ piece :: after →
    piece.token.line = line + lineFeeds (joined before ++ piece.gap)
  last : IsGap remainder lastGap
  stop : remainder = [] ∨ NeverCloses remainder

theorem joined_cons (piece : Piece) (pieces : List Piece) :
    joined (piece :: pieces) = piece.text ++ joined pieces :=
  List.flatMap_cons

section

variable {line : Nat} {source lastGap remainder : List Char} {pieces : List Piece}

theorem IsSplit.of_end (last : IsGap remainder lastGap)
    (stop : remainder = [] ∨ NeverCloses remainder) :
    IsSplit line (lastGap ++ remainder) [] lastGap remainder where
  text := rfl
  gaps := by simp
  lexemes := by simp
  lines := by simp
  last
  stop

theorem IsSplit.cons (piece : Piece)
    (split : IsSplit (line + lineFeeds piece.text) source pieces lastGap remainder)
    (gap : IsGap (piece.written ++ source) piece.gap)
    (lexeme : IsLexeme source piece.token.kind piece.written)
    (counted : piece.token.line = line + lineFeeds piece.gap) :
    IsSplit line (piece.text ++ source) (piece :: pieces) lastGap remainder where
  text := by rw [joined_cons, List.append_assoc, ← split.text]
  gaps := by
    intro before other after same
    rcases List.cons_eq_append_iff.1 same with ⟨rfl, isFirst⟩ | ⟨tail, rfl, inTail⟩
    · cases isFirst
      rwa [← split.text]
    · exact split.gaps tail other after inTail
  lexemes := by
    intro before other after same
    rcases List.cons_eq_append_iff.1 same with ⟨rfl, isFirst⟩ | ⟨tail, rfl, inTail⟩
    · cases isFirst
      rwa [← split.text]
    · exact split.lexemes tail other after inTail
  lines := by
    intro before other after same
    rcases List.cons_eq_append_iff.1 same with ⟨rfl, isFirst⟩ | ⟨tail, rfl, inTail⟩
    · cases isFirst
      exact counted
    · rw [split.lines tail other after inTail, joined_cons]
      simp only [lineFeeds_append]
      omega
  last := split.last
  stop := split.stop

theorem IsSplit.tail {piece : Piece}
    (split : IsSplit line source (piece :: pieces) lastGap remainder) :
    IsSplit (line + lineFeeds piece.text) (joined pieces ++ (lastGap ++ remainder)) pieces
      lastGap remainder where
  text := rfl
  gaps := fun before other after same =>
    split.gaps (piece :: before) other after (congrArg (List.cons piece) same)
  lexemes := fun before other after same =>
    split.lexemes (piece :: before) other after (congrArg (List.cons piece) same)
  lines := by
    intro before other after same
    rw [split.lines (piece :: before) other after (congrArg (List.cons piece) same), joined_cons]
    simp only [lineFeeds_append]
    omega
  last := split.last
  stop := split.stop

end

/-! ## The split of a scan -/

theorem exists_isSplit (line : Nat) (source : List Char) :
    ∃ pieces lastGap remainder, IsSplit line source pieces lastGap remainder ∧
      scanFrom line source = pieces.map Piece.token := by
  fun_induction scanFrom line source with
  | case1 line source start finished =>
      obtain ⟨gap, whole, _, isGap⟩ := exists_passed .between line source
      refine ⟨[], gap, start.rest, ?_, rfl⟩
      have stop : start.rest = [] ∨ NeverCloses start.rest := by
        cases rest : start.rest with
        | nil => exact .inl rfl
        | cons first tail =>
            obtain ⟨visible, noComment⟩ := stop_skipGap rest
            rw [rest] at finished
            exact .inr (neverCloses_of_lexeme? visible noComment finished)
      have split : IsSplit line (gap ++ start.rest) [] gap start.rest := .of_end isGap stop
      rwa [← whole] at split
  | case2 line source start lexeme found inductionHypothesis =>
      obtain ⟨gap, whole, counted, isGap⟩ := exists_passed .between line source
      obtain ⟨pieces, lastGap, remainder, split, tokens⟩ := inductionHypothesis
      obtain ⟨first, tail, rest⟩ : ∃ first tail, start.rest = first :: tail := by
        cases rest : start.rest with
        | nil => rw [rest] at found; cases found
        | cons first tail => exact ⟨first, tail, rfl⟩
      obtain ⟨visible, noComment⟩ := stop_skipGap rest
      have taken := isLexeme_of_lexeme? visible noComment (rest ▸ found)
      have further : start.line + lineFeeds lexeme.written =
          line + lineFeeds (gap ++ lexeme.written) := by
        rw [lineFeeds_append, counted, Nat.add_assoc]
      have written : source = gap ++ lexeme.written ++ lexeme.rest := by
        rw [List.append_assoc, ← taken.1, ← rest]
        exact whole
      have isGapBefore : IsGap (lexeme.written ++ lexeme.rest) gap := by
        rw [← taken.1, ← rest]
        exact isGap
      rw [further] at split
      have whole := IsSplit.cons ⟨gap, lexeme.written, ⟨lexeme.kind, start.line⟩⟩ split
        isGapBefore taken.2 counted
      refine ⟨_, lastGap, remainder, written ▸ whole, ?_⟩
      rw [tokens, List.map_cons]

/-- No gap starts where a lexeme starts. -/
theorem skipGap_of_isLexeme {follow written : List Char} {kind : Token.Kind} (line : Nat)
    (isLexeme : IsLexeme follow kind written) :
    skipGap .between line (written ++ follow) = ⟨line, written ++ follow⟩ := by
  cases isLexeme with
  | «variable» longest => exact skipGap_of_visible _ line (by decide) (by decide) (by decide)
  | identifier longest =>
      obtain ⟨first, rest, toList, start, _⟩ := longest.1.exists_cons
      rw [toList]
      exact skipGap_of_isWordCharacter _ line (isWordCharacter_of_isWordStart start)
  | number longest =>
      obtain ⟨first, rest, toList, digit⟩ := longest.1.exists_cons
      rw [toList]
      exact skipGap_of_isWordCharacter _ line (isWordCharacter_of_isDigit digit).1
  | text opens body =>
      simp only [quotes, List.mem_cons, List.not_mem_nil, or_false] at opens
      rcases opens with rfl | rfl <;>
        exact skipGap_of_visible _ line (by decide) (by decide) (by decide)
  | arrow => exact skipGap_of_visible _ line (by decide) (by decide) (by decide)
  | nullSafeArrow => exact skipGap_of_visible _ line (by decide) (by decide) (by decide)
  | doubleColon => exact skipGap_of_visible _ line (by decide) (by decide) (by decide)
  | symbol alone => exact skipGap_of_stop line alone.visible alone.noComment

theorem skipGap_of_neverCloses {source : List Char} (line : Nat)
    (neverCloses : NeverCloses source) :
    skipGap .between line source = ⟨line, source⟩ := by
  obtain ⟨quote, opens, rest, rfl, _⟩ := neverCloses
  simp only [quotes, List.mem_cons, List.not_mem_nil, or_false] at opens
  rcases opens with rfl | rfl <;>
    exact skipGap_of_visible _ line (by decide) (by decide) (by decide)

/-- A gap and a lexeme at the front of a source are its first token. -/
theorem scanFrom_of_isLexeme {gap written follow : List Char} {kind : Token.Kind} (line : Nat)
    (isGap : IsGap (written ++ follow) gap) (isLexeme : IsLexeme follow kind written) :
    scanFrom line (gap ++ (written ++ follow)) =
      ⟨kind, line + lineFeeds gap⟩ ::
        scanFrom (line + lineFeeds (gap ++ written)) follow := by
  have passed : skipGap .between line (gap ++ (written ++ follow)) =
      ⟨line + lineFeeds gap, written ++ follow⟩ := by
    rw [skipGap_of_isGap isGap, skipGap_of_isLexeme _ isLexeme]
  have found : lexeme? (skipGap .between line (gap ++ (written ++ follow))).rest =
      some ⟨kind, written, follow⟩ := by
    rw [passed]
    exact lexeme?_of_isLexeme isLexeme
  rw [scanFrom_of_lexeme? found, passed, lineFeeds_append, Nat.add_assoc]

/-- Nothing is left to scan behind a gap that ends the source or stands before
a literal that never closes. -/
theorem scanFrom_of_stop {gap remainder : List Char} (line : Nat) (isGap : IsGap remainder gap)
    (stop : remainder = [] ∨ NeverCloses remainder) :
    scanFrom line (gap ++ remainder) = [] := by
  apply scanFrom_of_end
  rw [skipGap_of_isGap isGap]
  rcases stop with rfl | neverCloses
  · rfl
  · rw [skipGap_of_neverCloses _ neverCloses]
    exact lexeme?_of_neverCloses neverCloses

theorem IsSplit.token_eq {line : Nat} {source lastGap remainder : List Char} {piece : Piece}
    {pieces : List Piece} (split : IsSplit line source (piece :: pieces) lastGap remainder) :
    piece.token = ⟨piece.token.kind, line + lineFeeds piece.gap⟩ := by
  have counted := split.lines [] piece pieces rfl
  exact congrArg (Token.mk piece.token.kind) counted

/-- A split has the tokens of the scan. -/
theorem scanFrom_of_isSplit {line : Nat} {source lastGap remainder : List Char}
    {pieces : List Piece} (split : IsSplit line source pieces lastGap remainder) :
    scanFrom line source = pieces.map Piece.token := by
  induction pieces generalizing line source with
  | nil =>
      rw [split.text]
      change scanFrom line (lastGap ++ remainder) = []
      exact scanFrom_of_stop line split.last split.stop
  | cons piece pieces inductionHypothesis =>
      have isGap := split.gaps [] piece pieces rfl
      have isLexeme := split.lexemes [] piece pieces rfl
      have rest := inductionHypothesis split.tail
      rw [split.text, joined_cons, Piece.text, List.append_assoc, List.append_assoc,
        scanFrom_of_isLexeme line isGap isLexeme, List.map_cons, split.token_eq]
      exact congrArg _ rest

/-! ## Sources -/

/-- A scan loses nothing: every source is the lexemes of its tokens, each as
long as it can be, with nothing but blanks and comments between them, up to a
literal that never closes if there is one; and each token is on the line where
its lexeme starts. -/
theorem exists_isSplit_tokenize (source : String) :
    ∃ pieces lastGap remainder, IsSplit 1 source.toList pieces lastGap remainder ∧
      tokenize source = pieces.map Piece.token ∧ ∀ piece ∈ pieces, piece.written ≠ [] := by
  obtain ⟨pieces, lastGap, remainder, split, tokens⟩ := exists_isSplit 1 source.toList
  refine ⟨pieces, lastGap, remainder, split, tokens, ?_⟩
  intro piece member
  obtain ⟨before, after, same⟩ := List.append_of_mem member
  exact (split.lexemes before piece after same).ne_nil

end FormRules.Token
