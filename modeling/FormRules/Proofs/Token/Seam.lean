import FormRules.Proofs.Token.Split

/-!
Contract: sources that are put together line by line.

Owns:
- sources that leave neither a literal nor a block comment open, with a test;
- lexemes and gaps stay what they are when text is added behind a blank;
- the tokens of two sources, one below the other.

Does not own: the split of a single source.
-/

namespace FormRules.Token

open FormRules.Text

/-! ## Text behind a blank -/

theorem prefix_of_prefix_append {α : Type} {front left right : List α} {seam : α}
    (apart : seam ∉ front) (begins : front <+: left ++ seam :: right) : front <+: left := by
  rcases List.prefix_or_prefix_of_prefix begins (List.prefix_append left (seam :: right)) with
    inLeft | ⟨rest, rfl⟩
  · exact inLeft
  · cases rest with
    | nil => simp
    | cons next more =>
        rw [List.prefix_append_right_inj, List.cons_prefix_cons] at begins
        exact absurd (List.mem_append_right left (begins.1 ▸ List.mem_cons_self)) apart

section

variable {follow : List Char} {seam : Char} (rest : List Char)

theorem IsLongest.append_blank {shape : String → Prop} {text : String}
    (longest : IsLongest shape text follow)
    (apart : ∀ other, shape other → seam ∉ other.toList) :
    IsLongest shape text (follow ++ seam :: rest) := by
  refine ⟨longest.1, ?_⟩
  intro other isOther begins
  rw [← List.append_assoc] at begins
  exact longest.2 other isOther (prefix_of_prefix_append (apart other isOther) begins)

omit rest in
theorem notMem_of_visible {part : List Char} (visible : ∀ sign ∈ part, isBlank sign = false)
    (blank : isBlank seam = true) : seam ∉ part := by
  intro member
  rw [visible seam member] at blank
  cases blank

omit rest in
theorem IsWord.no_blank {word : String} (isWord : IsWord word) (blank : isBlank seam = true) :
    seam ∉ word.toList := by
  obtain ⟨_, _, _, _, inside⟩ := isWord.exists_cons
  apply notMem_of_visible _ blank
  intro sign member
  exact isBlank_eq_false_of_isWordCharacter (inside sign member)

omit rest in
theorem IsNumeral.no_blank {numeral : String} (isNumeral : IsNumeral numeral)
    (blank : isBlank seam = true) : seam ∉ numeral.toList := by
  have visible : ∀ digit : Char, digit.isDigit = true → isBlank digit = false := by
    intro digit isDigit
    exact isBlank_eq_false_of_isWordCharacter (isWordCharacter_of_isDigit isDigit).1
  apply notMem_of_visible _ blank
  intro sign member
  obtain ⟨whole, _, wholeDigits, written | ⟨fraction, _, fractionDigits, written⟩⟩ := isNumeral
  · rw [written] at member
    exact visible sign (wholeDigits sign member)
  · rw [written] at member
    rcases List.mem_append.1 member with inWhole | inTail
    · exact visible sign (wholeDigits sign inWhole)
    · rcases List.mem_cons.1 inTail with rfl | inFraction
      · decide
      · exact visible sign (fractionDigits sign inFraction)

omit rest in
theorem notMem_of_all_visible {parts : List (List Char)}
    (visible : (parts.all fun part => part.all fun sign => !isBlank sign) = true)
    (blank : isBlank seam = true) : ∀ part ∈ parts, seam ∉ part := by
  intro part member
  apply notMem_of_visible _ blank
  simp only [List.all_eq_true, Bool.not_eq_true'] at visible
  exact visible part member

theorem StandsAlone.append_blank {first : Char} (alone : StandsAlone first follow)
    (blank : isBlank seam = true) : StandsAlone first (follow ++ seam :: rest) := by
  have visibleOpeners : ∀ opener ∈ commentOpeners, seam ∉ opener :=
    notMem_of_all_visible (by decide) blank
  have visibleSigns : ∀ sign ∈ signs, seam ∉ sign := notMem_of_all_visible (by decide) blank
  have noStart : isWordStart seam = false := by
    cases start : isWordStart seam with
    | false => rfl
    | true =>
        have word := isWordCharacter_of_isWordStart start
        rw [isBlank_eq_false_of_isWordCharacter word] at blank
        cases blank
  refine { alone with noComment := ?_, noVariable := ?_, noSign := ?_ }
  · intro opener member begins
    rw [← List.cons_append] at begins
    exact alone.noComment opener member
      (prefix_of_prefix_append (visibleOpeners opener member) begins)
  · intro isDollar
    cases follow with
    | nil => exact noStart
    | cons next more => exact alone.noVariable isDollar
  · intro sign member begins
    rw [← List.cons_append] at begins
    exact alone.noSign sign member
      (prefix_of_prefix_append (visibleSigns sign member) begins)

/-- A lexeme does not depend on what stands behind a blank. -/
theorem IsLexeme.append_blank {kind : Token.Kind} {written : List Char}
    (isLexeme : IsLexeme follow kind written) (blank : isBlank seam = true) :
    IsLexeme (follow ++ seam :: rest) kind written := by
  cases isLexeme with
  | «variable» longest =>
      exact .variable (longest.append_blank rest fun _ isWord => isWord.no_blank blank)
  | identifier longest =>
      exact .identifier (longest.append_blank rest fun _ isWord => isWord.no_blank blank)
  | number longest =>
      exact .number (longest.append_blank rest fun _ isNumeral => isNumeral.no_blank blank)
  | text opens body => exact .text opens body
  | arrow => exact .arrow
  | nullSafeArrow => exact .nullSafeArrow
  | doubleColon => exact .doubleColon
  | symbol alone => exact .symbol (alone.append_blank rest blank)

/-- A gap depends only on how the text behind it starts. -/
theorem IsGap.append_follow {gap : List Char} (isGap : IsGap follow gap)
    (nonempty : follow ≠ []) : IsGap (follow ++ rest) gap := by
  induction isGap with
  | nil => exact .nil
  | blank isBlank more inductionHypothesis => exact .blank isBlank inductionHypothesis
  | @lineComment opener body gap opens oneLine ends more inductionHypothesis =>
      refine .lineComment opens oneLine ?_ inductionHypothesis
      obtain ⟨next, more, rfl⟩ := List.exists_cons_of_ne_nil nonempty
      simpa [List.head?_append] using ends
  | blockComment inside more inductionHypothesis => exact .blockComment inside inductionHypothesis
  | openComment last inside => exact absurd last nonempty

end

/-! ## Scans behind a split -/

/-- Text behind a blank is scanned together with what was left of the source in
front of it; the tokens in front stay. -/
theorem scanFrom_append_of_isSplit {line : Nat} {source lastGap remainder rest : List Char}
    {seam : Char} {pieces : List Piece}
    (split : IsSplit line source pieces lastGap remainder) (blank : isBlank seam = true) :
    scanFrom line (source ++ seam :: rest) =
      pieces.map Piece.token ++
        scanFrom (line + lineFeeds (joined pieces)) (lastGap ++ (remainder ++ seam :: rest)) := by
  induction pieces generalizing line source with
  | nil =>
      rw [split.text]
      simp [joined]
  | cons piece pieces inductionHypothesis =>
      have isLexeme := split.lexemes [] piece pieces rfl
      have nonempty : piece.written ++ (joined pieces ++ (lastGap ++ remainder)) ≠ [] := by
        simp [isLexeme.ne_nil]
      have isGap := (split.gaps [] piece pieces rfl).append_follow (seam :: rest) nonempty
      rw [List.append_assoc] at isGap
      have front := scanFrom_of_isLexeme line isGap (isLexeme.append_blank rest blank)
      have whole := inductionHypothesis split.tail
      have further : line + lineFeeds (piece.gap ++ piece.written) + lineFeeds (joined pieces) =
          line + lineFeeds (joined (piece :: pieces)) := by
        simp only [joined_cons, Piece.text, lineFeeds_append, Nat.add_assoc]
      calc scanFrom line (source ++ seam :: rest)
          = scanFrom line (piece.gap ++ (piece.written ++
              (joined pieces ++ (lastGap ++ remainder) ++ seam :: rest))) := by
            rw [split.text, joined_cons, Piece.text]
            simp only [List.append_assoc]
        _ = piece.token :: scanFrom (line + lineFeeds piece.text)
              (joined pieces ++ (lastGap ++ remainder) ++ seam :: rest) := by
            rw [front, split.token_eq, Piece.text]
        _ = (piece :: pieces).map Piece.token ++
              scanFrom (line + lineFeeds (joined (piece :: pieces)))
                (lastGap ++ (remainder ++ seam :: rest)) := by
            rw [whole, Piece.text, further, List.map_cons, List.cons_append]

/-! ## Closed sources -/

/-- The scan of the source ends with neither a literal nor a block comment left
open: there is no remainder, and the last gap is one even if a line follows. -/
def IsClosed (source : List Char) : Prop :=
  ∃ pieces lastGap, IsSplit 1 source pieces lastGap [] ∧ IsGap ['\n'] lastGap

/-- A gap in front of a source only moves its tokens down. -/
theorem scanFrom_of_isGap {gap follow : List Char} (line : Nat) (isGap : IsGap follow gap) :
    scanFrom line (gap ++ follow) = scanFrom (line + lineFeeds gap) follow := by
  have passed := skipGap_of_isGap isGap line
  cases found : lexeme? (skipGap .between (line + lineFeeds gap) follow).rest with
  | none => rw [scanFrom_of_end found, scanFrom_of_end (by rw [passed, found])]
  | some lexeme =>
      have foundBehind : lexeme? (skipGap .between line (gap ++ follow)).rest = some lexeme := by
        rw [passed, found]
      rw [scanFrom_of_lexeme? found, scanFrom_of_lexeme? foundBehind, passed]

theorem scanFrom_lineFeed (line : Nat) (source : List Char) :
    scanFrom line ('\n' :: source) = scanFrom (line + 1) source :=
  scanFrom_of_isGap line (.blank (by decide) .nil : IsGap source ['\n'])

/-- A line put below a closed source is scanned by itself. -/
theorem scanFrom_append_line {first : List Char} (closed : IsClosed first)
    (second : List Char) :
    scanFrom 1 (first ++ '\n' :: second) =
      scanFrom 1 first ++ (scanFrom 1 second).map (lowered (1 + lineFeeds first)) := by
  obtain ⟨pieces, lastGap, split, last⟩ := closed
  have isGap : IsGap ('\n' :: second) lastGap := last.append_follow second (by simp)
  have counted : 1 + lineFeeds (joined pieces) + lineFeeds lastGap = 1 + lineFeeds first := by
    rw [split.text, List.append_nil, lineFeeds_append, Nat.add_assoc]
  rw [scanFrom_append_of_isSplit split (by decide), List.nil_append,
    scanFrom_of_isGap _ isGap, counted, scanFrom_lineFeed,
    scanFrom_of_isSplit split, Nat.add_comm _ 1, scanFrom_add]

/-! ## Comments at a seam -/

/-- A line comment at the end of a gap reaches as far as its line. -/
theorem IsGap.append_lineComment {gap opener body : List Char} (isGap : IsGap ['\n'] gap)
    (opens : opener ∈ lineOpeners) (oneLine : '\n' ∉ body) :
    IsGap ['\n'] (gap ++ ' ' :: (opener ++ body)) := by
  have openerLine : '\n' ∉ opener := List.count_eq_zero.1 (lineFeeds_lineOpener opens)
  induction isGap with
  | nil =>
      have comment : IsGap ['\n'] (opener ++ (body ++ [])) :=
        .lineComment opens oneLine (by simp) .nil
      rw [List.append_nil] at comment
      exact .blank (by decide) comment
  | blank isBlank more inductionHypothesis => exact .blank isBlank inductionHypothesis
  | @lineComment earlier text gap earlierOpens earlierLine ends more inductionHypothesis =>
      cases gap with
      | nil =>
          -- The earlier comment has not ended, so the new one is more of its text.
          have longer : '\n' ∉ text ++ ' ' :: (opener ++ body) := by
            simp [earlierLine, openerLine, oneLine]
          have comment := IsGap.lineComment earlierOpens longer (by simp) (.nil : IsGap ['\n'] [])
          simpa using comment
      | cons next rest =>
          have endsBefore : ∀ sign ∈ (next :: rest ++ ' ' :: (opener ++ body) ++ ['\n']).head?,
              sign = '\n' := ends
          have comment := IsGap.lineComment earlierOpens earlierLine endsBefore inductionHypothesis
          simpa using comment
  | @blockComment text gap inside more inductionHypothesis =>
      have comment := IsGap.blockComment inside inductionHypothesis
      simpa using comment
  | openComment last inside => cases last

theorem scanFrom_append_lineComment {first opener body : List Char} (closed : IsClosed first)
    (opens : opener ∈ lineOpeners) (oneLine : '\n' ∉ body) (second : List Char) :
    scanFrom 1 (first ++ ' ' :: (opener ++ body ++ '\n' :: second)) =
      scanFrom 1 first ++ (scanFrom 1 second).map (lowered (1 + lineFeeds first)) := by
  obtain ⟨pieces, lastGap, split, last⟩ := closed
  have isGap : IsGap ('\n' :: second) (lastGap ++ ' ' :: (opener ++ body)) :=
    (last.append_lineComment opens oneLine).append_follow second (by simp)
  have noFeeds : lineFeeds (' ' :: (opener ++ body)) = 0 := by
    rw [lineFeeds_cons_of_ne _ (by decide), lineFeeds_append, lineFeeds_lineOpener opens,
      Nat.zero_add]
    exact List.count_eq_zero.2 oneLine
  have counted : 1 + lineFeeds (joined pieces) + lineFeeds (lastGap ++ ' ' :: (opener ++ body)) =
      1 + lineFeeds first := by
    rw [split.text, List.append_nil, lineFeeds_append, lineFeeds_append, noFeeds, Nat.add_zero,
      Nat.add_assoc]
  have whole : lastGap ++ ' ' :: (opener ++ body ++ '\n' :: second) =
      lastGap ++ ' ' :: (opener ++ body) ++ '\n' :: second := by simp
  rw [scanFrom_append_of_isSplit split (by decide), List.nil_append, whole,
    scanFrom_of_isGap _ isGap, counted, scanFrom_lineFeed, scanFrom_of_isSplit split,
    Nat.add_comm _ 1, scanFrom_add]

/-! ## A test for closed sources -/

/-- At the end of a source either a gap is complete, or a block comment in it
is open and takes what is added. -/
theorem IsGap.complete_or_open {gap : List Char} (isGap : IsGap [] gap) :
    IsGap ['\n'] gap ∨ IsGap [] (gap ++ ['\n', ';']) := by
  induction isGap with
  | nil => exact .inl .nil
  | blank isBlank more inductionHypothesis =>
      exact inductionHypothesis.imp (.blank isBlank) (.blank isBlank)
  | @lineComment opener body gap opens oneLine ends more inductionHypothesis =>
      have endsBefore : ∀ follow : List Char, follow.head? = some '\n' →
          ∀ next ∈ (gap ++ follow).head?, next = '\n' := by
        intro follow isFeed
        cases gap with
        | nil => simp [isFeed]
        | cons first rest => exact ends
      rcases inductionHypothesis with complete | isOpen
      · exact .inl (.lineComment opens oneLine (endsBefore ['\n'] rfl) complete)
      · have comment := IsGap.lineComment opens oneLine
          (by simpa using endsBefore ['\n', ';'] rfl) isOpen
        exact .inr (by simpa using comment)
  | @blockComment body gap inside more inductionHypothesis =>
      rcases inductionHypothesis with complete | isOpen
      · exact .inl (.blockComment inside complete)
      · have comment := IsGap.blockComment inside isOpen
        exact .inr (by simpa using comment)
  | @openComment body last inside =>
      have stillOpen : ¬blockCloser <:+: body ++ ['\n'] ++ [';'] := by
        intro within
        rcases List.infix_concat_iff.1 within with ⟨front, ends⟩ | within
        · simpa [blockCloser] using congrArg List.getLast? ends
        rcases List.infix_concat_iff.1 within with ⟨front, ends⟩ | within
        · simpa [blockCloser] using congrArg List.getLast? ends
        · exact inside within
      rw [List.append_assoc, List.singleton_append] at stillOpen
      have comment : IsGap [] (blockOpener ++ (body ++ ['\n', ';'])) := .openComment rfl stillOpen
      exact .inr (by simpa using comment)

theorem NeverCloses.append {source : List Char} (neverCloses : NeverCloses source) :
    NeverCloses (source ++ ['\n', ';']) := by
  obtain ⟨quote, opens, rest, rfl, unclosed⟩ := neverCloses
  have noQuote : quote ∉ ['\n', ';'] := by
    intro member
    revert opens
    rcases List.mem_cons.1 member with rfl | member
    · decide
    · rw [List.mem_singleton] at member
      subst member
      decide
  refine ⟨quote, opens, rest ++ ['\n', ';'], rfl, ?_⟩
  rintro ⟨written, value, after, same, body⟩
  rcases List.append_eq_append_iff.1 same with ⟨more, rfl, added⟩ | ⟨more, rfl, added⟩
  · exact noQuote (added ▸ List.mem_append_right more List.mem_cons_self)
  · cases more with
    | nil =>
        rw [List.nil_append] at added
        exact noQuote (added ▸ List.mem_cons_self)
    | cons next others =>
        cases (List.cons.inj added).1
        exact unclosed ⟨written, value, others, rfl, body⟩

theorem kinds_semicolon_nil : kinds [';'] = [.semicolon] := by
  rw [kinds_semicolon, kinds_nil]

/-- A source is closed if a semicolon on a line of its own below it is one more
token. -/
theorem isClosed_iff (source : List Char) :
    IsClosed source ↔ kinds (source ++ ['\n', ';']) = kinds source ++ [.semicolon] := by
  constructor
  · intro closed
    have below := congrArg (List.map Token.kind) (scanFrom_append_line closed [';'])
    rw [List.map_append, List.map_map, map_kind_scanFrom, map_kind_scanFrom] at below
    rw [below, ← kinds_semicolon_nil, ← map_kind_scanFrom 1 [';']]
    rfl
  · intro oneMore
    obtain ⟨pieces, lastGap, remainder, split, tokens⟩ := exists_isSplit 1 source
    have added : scanFrom 1 (source ++ ['\n', ';']) = _ :=
      scanFrom_append_of_isSplit split (by decide)
    have notAll : scanFrom (1 + lineFeeds (joined pieces))
        (lastGap ++ (remainder ++ ['\n', ';'])) ≠ [] := by
      intro none
      rw [none, List.append_nil, ← tokens] at added
      rw [← map_kind_scanFrom 1, ← map_kind_scanFrom 1, added] at oneMore
      simp at oneMore
    rcases split.stop with rfl | neverCloses
    · rcases split.last.complete_or_open with complete | isOpen
      · exact ⟨pieces, lastGap, split, complete⟩
      · have stopped := scanFrom_of_stop (1 + lineFeeds (joined pieces)) isOpen (.inl rfl)
        rw [List.append_nil] at stopped
        exact absurd stopped notAll
    · have nonempty : remainder ≠ [] := by
        obtain ⟨quote, _, rest, rfl, _⟩ := neverCloses
        simp
      exact absurd (scanFrom_of_stop _ (split.last.append_follow ['\n', ';'] nonempty)
        (.inr neverCloses.append)) notAll

instance (source : List Char) : Decidable (IsClosed source) :=
  decidable_of_iff _ (isClosed_iff source).symm

/-! ## Sources line by line -/

theorem tokenize_append_line {first : String} (closed : IsClosed first.toList)
    (second : String) :
    tokenize (first ++ "\n" ++ second) =
      tokenize first ++ (tokenize second).map (lowered (1 + lineFeeds first.toList)) := by
  have below := scanFrom_append_line closed second.toList
  simpa [tokenize] using below

/-- A gap on lines of its own moves the tokens below it further down. -/
theorem tokenize_gap_line {gap : String} (isGap : IsGap ['\n'] gap.toList) (second : String) :
    tokenize (gap ++ "\n" ++ second) =
      (tokenize second).map (lowered (1 + lineFeeds gap.toList)) := by
  have isGapBefore : IsGap ('\n' :: second.toList) gap.toList :=
    isGap.append_follow second.toList (by simp)
  have whole : (gap ++ "\n" ++ second).toList = gap.toList ++ '\n' :: second.toList := by simp
  rw [tokenize, whole, scanFrom_of_isGap 1 isGapBefore, scanFrom_lineFeed, Nat.add_comm _ 1,
    scanFrom_add]
  rfl

theorem map_kind_lowered (count : Nat) (tokens : List Token) :
    (tokens.map (lowered count)).map Token.kind = tokens.map Token.kind := by
  rw [List.map_map]
  rfl

/-- The tokens of a closed source and of one below it are the tokens of both,
those of the second moved down by the lines of the first.  So blank lines and
comments between the two change no kind of token, and a line comment behind the
first takes nothing from the second. -/
theorem tokenize_lines (first : String) (closed : IsClosed first.toList) (second : String) :
    tokenize (first ++ "\n" ++ second) =
      tokenize first ++ (tokenize second).map (lowered (1 + lineFeeds first.toList)) ∧
    (∀ between : String, IsGap ['\n'] between.toList →
      (tokenize (first ++ "\n" ++ (between ++ "\n" ++ second))).map Token.kind =
        (tokenize (first ++ "\n" ++ second)).map Token.kind) ∧
    ∀ opener body : String, opener.toList ∈ lineOpeners → '\n' ∉ body.toList →
      tokenize (first ++ " " ++ opener ++ body ++ "\n" ++ second) =
        tokenize first ++ (tokenize second).map (lowered (1 + lineFeeds first.toList)) := by
  refine ⟨tokenize_append_line closed second, ?_, ?_⟩
  · intro between isGap
    rw [tokenize_append_line closed, tokenize_append_line closed, tokenize_gap_line isGap,
      List.map_append, List.map_append, map_kind_lowered, map_kind_lowered, map_kind_lowered]
  · intro opener body opens oneLine
    have below := scanFrom_append_lineComment closed opens oneLine second.toList
    simpa [tokenize] using below

/-- A first source with quotes in its comments, the last of which is open. -/
theorem tokenize_lines_quotes_in_comments :
    let first := "$a /* it\x27s\n*/ ?->b // don\x27t"
    IsClosed first.toList ∧
    tokenize (first ++ "\n" ++ "->c()") =
      tokenize first ++ (tokenize "->c()").map (lowered (1 + lineFeeds first.toList)) ∧
    (tokenize (first ++ "\n" ++ ("" ++ "\n" ++ "->c()"))).map Token.kind =
      (tokenize (first ++ "\n" ++ "->c()")).map Token.kind ∧
    tokenize (first ++ " " ++ "#" ++ " \x22" ++ "\n" ++ "->c()") =
      tokenize first ++ (tokenize "->c()").map (lowered (1 + lineFeeds first.toList)) := by
  intro first
  have closed : IsClosed first.toList := by decide +kernel
  obtain ⟨lines, gaps, comments⟩ := tokenize_lines first closed "->c()"
  exact ⟨closed, lines, gaps "" .nil, comments "#" " \x22" (by decide) (by decide)⟩

end FormRules.Token
