import FormRules.Identifier
import FormRules.Proofs.Text.Class
import FormRules.Request.ClassText
import FormRules.Token.Scan

/-!
Contract: the kinds of the tokens at the front of a text.

Owns:
- the independence of a scan from the number of its first line;
- `kinds`, which forgets lines, with one law for each shape of lexeme;
- `leading`, which computes the first tokens of a text whatever follows them.

Does not own: lines, or what a sequence of tokens means.
-/

namespace FormRules.Token

open FormRules.Text

/-! ## Lines -/

/-- The token some lines further down. -/
def lowered (count : Nat) (token : Token) : Token :=
  { token with line := token.line + count }

theorem lineAfter_add (line count : Nat) (character : Char) :
    lineAfter (line + count) character = lineAfter line character + count := by
  unfold lineAfter
  split
  · omega
  · rfl

theorem skipGap_add (mode : GapMode) (line count : Nat) (source : List Char) :
    skipGap mode (line + count) source =
      ⟨(skipGap mode line source).line + count, (skipGap mode line source).rest⟩ := by
  fun_induction skipGap mode line source with
  | case1 => simp [skipGap]
  | case2 line rest inductionHypothesis => simpa [skipGap] using inductionHypothesis
  | case3 line rest inductionHypothesis => simpa [skipGap] using inductionHypothesis
  | case4 line rest inductionHypothesis => simpa [skipGap] using inductionHypothesis
  | case5 line character rest _ _ _ blank inductionHypothesis =>
      rw [← lineAfter_add] at inductionHypothesis
      simp_all [skipGap]
  | case6 line character rest _ _ _ visible => simp_all [skipGap]
  | case7 line character rest inductionHypothesis =>
      rw [← lineAfter_add] at inductionHypothesis
      simp_all [skipGap]
  | case8 line rest inductionHypothesis => simpa [skipGap] using inductionHypothesis
  | case9 line character rest _ inductionHypothesis =>
      rw [← lineAfter_add] at inductionHypothesis
      simp_all [skipGap]

/-- The scan of a text by its first lexeme. -/
theorem scanFrom_of_lexeme? {line : Nat} {source : List Char} {lexeme : Lexeme}
    (found : lexeme? (skipGap .between line source).rest = some lexeme) :
    scanFrom line source =
      ⟨lexeme.kind, (skipGap .between line source).line⟩ ::
        scanFrom ((skipGap .between line source).line + lineFeeds lexeme.written)
          lexeme.rest := by
  rw [scanFrom]
  split
  next absent => rw [found] at absent; cases absent
  next other same => rw [found] at same; cases same; rfl

theorem scanFrom_of_end {line : Nat} {source : List Char}
    (finished : lexeme? (skipGap .between line source).rest = none) :
    scanFrom line source = [] := by
  rw [scanFrom]
  split
  next => rfl
  next lexeme found => rw [finished] at found; cases found

/-- A text that starts further down has its tokens further down. -/
theorem scanFrom_add (count line : Nat) (source : List Char) :
    scanFrom (line + count) source = (scanFrom line source).map (lowered count) := by
  fun_induction scanFrom line source with
  | case1 line source start finished =>
      rw [scanFrom_of_end]
      · rfl
      · rw [skipGap_add]
        exact finished
  | case2 line source start lexeme found inductionHypothesis =>
      have foundBelow : lexeme? (skipGap .between (line + count) source).rest = some lexeme := by
        rw [skipGap_add]
        exact found
      rw [scanFrom_of_lexeme? foundBelow, skipGap_add, Nat.add_right_comm, inductionHypothesis]
      rfl

/-! ## Kinds -/

/-- The kinds of the tokens of a text. -/
def kinds (source : List Char) : List Token.Kind :=
  (scanFrom 0 source).map Token.kind

theorem map_kind_scanFrom (line : Nat) (source : List Char) :
    (scanFrom line source).map Token.kind = kinds source := by
  rw [← Nat.zero_add line, scanFrom_add, List.map_map]
  rfl

theorem map_kind_tokenize (source : String) :
    (tokenize source).map Token.kind = kinds source.toList :=
  map_kind_scanFrom 1 source.toList

theorem kinds_of_lexeme? {source : List Char} {lexeme : Lexeme}
    (found : lexeme? (skipGap .between 0 source).rest = some lexeme) :
    kinds source = lexeme.kind :: kinds lexeme.rest := by
  rw [kinds, scanFrom_of_lexeme? found, List.map_cons, map_kind_scanFrom]

theorem kinds_of_front {source : List Char} {lexeme : Lexeme}
    (gap : skipGap .between 0 source = ⟨0, source⟩) (found : lexeme? source = some lexeme) :
    kinds source = lexeme.kind :: kinds lexeme.rest := by
  apply kinds_of_lexeme?
  rw [gap]
  exact found

@[simp]
theorem kinds_nil : kinds [] = [] := by
  rw [kinds, scanFrom_of_end rfl, List.map_nil]

/-- Read some tokens off the front of a text: their kinds, and the text after
them. -/
def leading : Nat → List Char → Option (List Token.Kind × List Char)
  | 0, source => some ([], source)
  | count + 1, source =>
      (lexeme? (skipGap .between 0 source).rest).bind fun lexeme =>
        (leading count lexeme.rest).map fun (kinds, rest) => (lexeme.kind :: kinds, rest)

/-- What `leading` reads is the front of what a scan reads. -/
theorem kinds_of_leading {count : Nat} {source rest : List Char} {front : List Token.Kind}
    (read : leading count source = some (front, rest)) :
    kinds source = front ++ kinds rest := by
  induction count generalizing source front with
  | zero =>
      cases read
      rfl
  | succ count inductionHypothesis =>
      obtain ⟨lexeme, found, more⟩ := Option.bind_eq_some_iff.1 read
      obtain ⟨⟨tail, last⟩, readTail, same⟩ := Option.map_eq_some_iff.1 more
      cases same
      rw [kinds_of_lexeme? found, inductionHypothesis readTail, List.cons_append]

theorem kinds_of_leading_one {source rest : List Char} {kind : Token.Kind}
    (read : leading 1 source = some ([kind], rest)) :
    kinds source = kind :: kinds rest :=
  kinds_of_leading read

/-! ## Gaps -/

/-- A gap ends before a character that is neither blank nor opens a comment. -/
theorem skipGap_of_visible {first : Char} (rest : List Char) (line : Nat)
    (visible : isBlank first = false) (noHash : first ≠ '#') (noSlash : first ≠ '/') :
    skipGap .between line (first :: rest) = ⟨line, first :: rest⟩ := by
  unfold skipGap
  split <;> simp_all

theorem skipGap_of_isWordCharacter {first : Char} (rest : List Char) (line : Nat)
    (word : isWordCharacter first = true) :
    skipGap .between line (first :: rest) = ⟨line, first :: rest⟩ := by
  apply skipGap_of_visible rest line (isBlank_eq_false_of_isWordCharacter word)
  · rintro rfl
    revert word
    decide
  · rintro rfl
    revert word
    decide

theorem skipGap_of_isBlank {first : Char} (rest : List Char) (line : Nat)
    (blank : isBlank first = true) :
    skipGap .between line (first :: rest) =
      skipGap .between (lineAfter line first) rest := by
  have noHash : first ≠ '#' := by
    rintro rfl
    revert blank
    decide
  have noSlash : first ≠ '/' := by
    rintro rfl
    revert blank
    decide
  rw [skipGap]
  · rw [if_pos blank]
  all_goals simp_all

theorem rest_skipGap (mode : GapMode) (line : Nat) (source : List Char) :
    (skipGap mode line source).rest = (skipGap mode 0 source).rest := by
  have moved := skipGap_add mode 0 line source
  rw [Nat.zero_add] at moved
  rw [moved]

/-- The kinds depend on what stands behind the first gap. -/
theorem kinds_congr {left right : List Char}
    (same : (skipGap .between 0 left).rest = (skipGap .between 0 right).rest) :
    kinds left = kinds right := by
  cases found : lexeme? (skipGap .between 0 left).rest with
  | none =>
      have foundRight := same ▸ found
      rw [kinds, kinds, scanFrom_of_end found, scanFrom_of_end foundRight]
  | some lexeme =>
      have foundRight : lexeme? (skipGap .between 0 right).rest = some lexeme := same ▸ found
      rw [kinds_of_lexeme? found, kinds_of_lexeme? foundRight]

/-- A blank separates tokens and is none. -/
theorem kinds_of_isBlank {first : Char} (rest : List Char) (blank : isBlank first = true) :
    kinds (first :: rest) = kinds rest := by
  apply kinds_congr
  rw [skipGap_of_isBlank rest 0 blank, rest_skipGap]

@[simp]
theorem kinds_space (rest : List Char) : kinds (' ' :: rest) = kinds rest :=
  kinds_of_isBlank rest (by decide)

@[simp]
theorem kinds_lineFeed (rest : List Char) : kinds ('\n' :: rest) = kinds rest :=
  kinds_of_isBlank rest (by decide)

theorem kinds_blanks {blanks : List Char} (rest : List Char)
    (blank : ∀ character ∈ blanks, isBlank character = true) :
    kinds (blanks ++ rest) = kinds rest := by
  induction blanks with
  | nil => rfl
  | cons first more inductionHypothesis =>
      rw [List.cons_append, kinds_of_isBlank _ (blank first List.mem_cons_self)]
      exact inductionHypothesis fun character member =>
        blank character (List.mem_cons_of_mem first member)

/-- A fixed piece of text that is read to its end, up to blanks. -/
theorem kinds_piece {piece : String} {front : List Token.Kind} (count : Nat) (gap : List Char)
    (read : ∀ tail, leading count (piece.toList ++ tail) = some (front, gap ++ tail))
    (blank : gap.all isBlank = true) (rest : List Char) :
    kinds (piece.toList ++ rest) = front ++ kinds rest := by
  rw [kinds_of_leading (read rest), kinds_blanks rest (List.all_eq_true.1 blank)]

/-! ## Words and numerals -/

/-- The text continues neither a word nor a numeral that stands before it. -/
def breaksWord (rest : List Char) : Bool :=
  rest.head?.all fun next => !isWordCharacter next && next != '.'

/-- Where a test fails first, a text is divided. -/
theorem spans_of_break {test : Char → Bool} {front rest : List Char}
    (inside : ∀ character ∈ front, test character = true)
    (outside : ∀ next ∈ rest.head?, test next = false) :
    (front ++ rest).takeWhile test = front ∧ (front ++ rest).dropWhile test = rest := by
  rw [List.takeWhile_append_of_pos inside, List.dropWhile_append_of_pos inside]
  cases rest with
  | nil => simp
  | cons next more =>
      have stops : test next = false := outside next rfl
      simp [stops]

theorem spanWord_append {word rest : List Char}
    (inside : ∀ character ∈ word, isWordCharacter character = true)
    (breaks : breaksWord rest = true) :
    spanWord (word ++ rest) = (word, rest) := by
  have outside : ∀ next ∈ rest.head?, isWordCharacter next = false := by
    intro next member
    rw [breaksWord, Option.mem_def.1 member] at breaks
    simp only [Option.all_some, Bool.and_eq_true, Bool.not_eq_true'] at breaks
    exact breaks.1
  obtain ⟨taken, left⟩ := spans_of_break inside outside
  rw [spanWord, taken, left]

/-- An identifier is one token where the text after it is not part of it. -/
theorem kinds_identifier {name : String} {rest : List Char}
    (identifier : isIdentifier name = true) (breaks : breaksWord rest = true) :
    kinds (name.toList ++ rest) = .identifier name :: kinds rest := by
  unfold isIdentifier at identifier
  split at identifier
  next => cases identifier
  next first more written =>
    rw [Bool.and_eq_true, List.all_eq_true] at identifier
    obtain ⟨start, inside⟩ := identifier
    have word := isWordCharacter_of_isWordStart start
    have noDollar : first ≠ '$' := by
      rintro rfl
      revert word
      decide
    have span : spanWord (first :: more ++ rest) = (first :: more, rest) := by
      apply spanWord_append _ breaks
      intro character member
      rcases List.mem_cons.1 member with isFirst | inMore
      · rw [isFirst]
        exact word
      · exact inside character inMore
    have found : lexeme? (first :: more ++ rest) =
        some ⟨.identifier name, first :: more, rest⟩ := by
      rw [List.cons_append] at span ⊢
      simp only [lexeme?, noDollar, start, span, ← written, String.ofList_toList, decide_false,
        Bool.false_and, Bool.false_eq_true, if_false, if_true]
    rw [written]
    exact kinds_of_front (skipGap_of_isWordCharacter (more ++ rest) 0 word) found

/-- Digits, and behind a point more digits or nothing at all. -/
def IsNumeral (text : String) : Prop :=
  ∃ whole : List Char, whole ≠ [] ∧ (∀ digit ∈ whole, digit.isDigit = true) ∧
    (text.toList = whole ∨
      ∃ fraction : List Char, fraction ≠ [] ∧ (∀ digit ∈ fraction, digit.isDigit = true) ∧
        text.toList = whole ++ '.' :: fraction)

theorem IsNumeral.exists_cons {text : String} (numeral : IsNumeral text) :
    ∃ first rest, text.toList = first :: rest ∧ first.isDigit = true := by
  obtain ⟨whole, nonempty, digits, written⟩ := numeral
  obtain ⟨first, more, rfl⟩ := List.exists_cons_of_ne_nil nonempty
  have digit := digits first List.mem_cons_self
  rcases written with written | ⟨fraction, _, _, written⟩
  · exact ⟨first, more, written, digit⟩
  · exact ⟨first, more ++ '.' :: fraction, written, digit⟩

theorem isWordCharacter_of_isDigit {digit : Char} (isDigit : digit.isDigit = true) :
    isWordCharacter digit = true ∧ isWordStart digit = false := by
  have bounds : 48 ≤ digit.toNat ∧ digit.toNat ≤ 57 := by
    simpa [Char.isDigit, UInt32.le_iff_toNat_le] using isDigit
  have table : ∀ code ≤ 57, 48 ≤ code →
      isWordCharacter (Char.ofNat code) = true ∧ isWordStart (Char.ofNat code) = false := by
    decide
  have here := table digit.toNat bounds.2 bounds.1
  rwa [Char.ofNat_toNat] at here

theorem spanDigits_append {digits rest : List Char}
    (inside : ∀ digit ∈ digits, digit.isDigit = true)
    (outside : ∀ next ∈ rest.head?, next.isDigit = false) :
    spanDigits (digits ++ rest) = (digits, rest) := by
  obtain ⟨taken, left⟩ := spans_of_break inside outside
  rw [spanDigits, taken, left]

theorem spanNumber_numeral {text : String} {rest : List Char} (numeral : IsNumeral text)
    (breaks : breaksWord rest = true) :
    spanNumber (text.toList ++ rest) = (text.toList, rest) := by
  have outside : ∀ next ∈ rest.head?, next.isDigit = false ∧ next ≠ '.' := by
    intro next member
    rw [breaksWord, Option.mem_def.1 member] at breaks
    simp only [Option.all_some, Bool.and_eq_true, Bool.not_eq_true', bne_iff_ne] at breaks
    refine ⟨?_, breaks.2⟩
    cases digit : next.isDigit with
    | false => rfl
    | true =>
        rw [(isWordCharacter_of_isDigit digit).1] at breaks
        exact Bool.noConfusion breaks.1
  obtain ⟨whole, nonempty, wholeDigits, written | ⟨fraction, more, fractionDigits, written⟩⟩ :=
    numeral
  · rw [written, spanNumber, spanDigits_append wholeDigits fun next member =>
      (outside next member).1]
    cases rest with
    | nil => rfl
    | cons next tail =>
        have noPoint := (outside next rfl).2
        split
        next heq =>
          cases heq
          exact absurd rfl noPoint
        next => rfl
  · have pointOutside : ∀ next ∈ ('.' :: (fraction ++ rest)).head?, next.isDigit = false := by
      intro next member
      cases member
      rfl
    have fractionSpan := spanDigits_append fractionDigits fun next member =>
      (outside next member).1
    rw [written, List.append_assoc, List.cons_append, spanNumber,
      spanDigits_append wholeDigits pointOutside]
    cases fraction with
    | nil => exact absurd rfl more
    | cons first tail =>
        have firstDigit := fractionDigits first List.mem_cons_self
        rw [List.cons_append] at fractionSpan
        simp only [List.cons_append, firstDigit, if_true, fractionSpan]

theorem kinds_numeral {text : String} {rest : List Char} (numeral : IsNumeral text)
    (breaks : breaksWord rest = true) :
    kinds (text.toList ++ rest) = .number text :: kinds rest := by
  have span := spanNumber_numeral numeral breaks
  obtain ⟨first, more, written, digit⟩ := numeral.exists_cons
  obtain ⟨word, noStart⟩ := isWordCharacter_of_isDigit digit
  have noDollar : first ≠ '$' := by
    rintro rfl
    revert digit
    decide
  have found : lexeme? (text.toList ++ rest) =
      some ⟨.number text, text.toList, rest⟩ := by
    rw [written, List.cons_append] at span ⊢
    simp only [lexeme?, noDollar, noStart, digit, span, ← written, String.ofList_toList,
      decide_false, Bool.false_and, Bool.false_eq_true, if_false, if_true]
  have gap := skipGap_of_isWordCharacter (more ++ rest) 0 word
  rw [← List.cons_append, ← written] at gap
  exact kinds_of_front gap found

/-! ## Literals -/

/-- A character of a single-quoted literal, with a backslash where it needs
one. -/
def escaped (character : Char) : List Char :=
  if character = '\\' || character = '\x27' then ['\\', character] else [character]

theorem toList_singleQuoted (text : String) :
    (singleQuoted text).toList = '\x27' :: (text.toList.flatMap escaped ++ ['\x27']) := by
  rw [singleQuoted, String.toList_ofList]
  rfl

/-- What is escaped for single quotes is read back character by character, up
to the closing quote. -/
theorem readLiteral_escaped (text rest : List Char) :
    readLiteral '\x27' (text.flatMap escaped ++ '\x27' :: rest) =
      some (text, text.flatMap escaped ++ ['\x27'], rest) := by
  induction text with
  | nil => simp [readLiteral]
  | cons first more inductionHypothesis =>
      rw [List.flatMap_cons, List.append_assoc]
      by_cases backslash : first = '\\'
      · subst backslash
        simp [escaped, readLiteral, inductionHypothesis, unescape]
      · by_cases quote : first = '\x27'
        · subst quote
          simp [escaped, readLiteral, inductionHypothesis, unescape]
        · simp [escaped, readLiteral, inductionHypothesis, backslash, quote]

/-- Any text between single quotes is one token, which holds the text itself. -/
theorem kinds_singleQuoted (text : String) (rest : List Char) :
    kinds ((singleQuoted text).toList ++ rest) = .text text :: kinds rest := by
  have body := readLiteral_escaped text.toList rest
  have notStart : isWordStart '\x27' = false := by decide
  have found : lexeme? ('\x27' :: (text.toList.flatMap escaped ++ '\x27' :: rest)) =
      some ⟨.text text, '\x27' :: (text.toList.flatMap escaped ++ ['\x27']), rest⟩ := by
    simp [lexeme?, notStart, body]
  rw [toList_singleQuoted, List.cons_append, List.append_assoc, List.singleton_append]
  exact kinds_of_front (skipGap_of_visible _ 0 (by decide) (by decide) (by decide)) found

/-! ## Lists -/

/-- A list of texts with separators is scanned item by item, if each item ends
where a word would end. -/
theorem kinds_intercalate {α : Type} (write : α → String) (read : α → List Token.Kind)
    {separator : String} {between : List Token.Kind} {items : List α} {rest : List Char}
    (separates : ∀ tail, kinds (separator.toList ++ tail) = between ++ kinds tail)
    (separatorBreaks : ∀ tail, breaksWord (separator.toList ++ tail) = true)
    (breaks : breaksWord rest = true)
    (scans : ∀ item ∈ items, ∀ tail, breaksWord tail = true →
      kinds ((write item).toList ++ tail) = read item ++ kinds tail) :
    kinds ((separator.intercalate (items.map write)).toList ++ rest) =
      between.intercalate (items.map read) ++ kinds rest := by
  induction items with
  | nil => rfl
  | cons first more inductionHypothesis =>
      have scansFirst := scans first List.mem_cons_self
      have scansMore := inductionHypothesis fun item member =>
        scans item (List.mem_cons_of_mem first member)
      cases more with
      | nil =>
          rw [List.map_singleton, List.map_singleton, String.intercalate_singleton,
            List.intercalate_singleton]
          exact scansFirst rest breaks
      | cons second others =>
          rw [List.map_cons] at scansMore
          rw [List.map_cons, List.map_cons, String.intercalate_cons_cons, String.toList_append,
            String.toList_append, List.append_assoc, List.append_assoc,
            scansFirst _ (separatorBreaks _), separates, scansMore]
          simp

/-! ## Signs -/

theorem kinds_openParen (rest : List Char) : kinds ('(' :: rest) = .openParen :: kinds rest :=
  kinds_of_leading_one rfl

theorem kinds_closeParen (rest : List Char) : kinds (')' :: rest) = .closeParen :: kinds rest :=
  kinds_of_leading_one rfl

theorem kinds_openBracket (rest : List Char) :
    kinds ('[' :: rest) = .openBracket :: kinds rest :=
  kinds_of_leading_one rfl

theorem kinds_closeBracket (rest : List Char) :
    kinds (']' :: rest) = .closeBracket :: kinds rest :=
  kinds_of_leading_one rfl

theorem kinds_comma (rest : List Char) : kinds (',' :: rest) = .comma :: kinds rest :=
  kinds_of_leading_one rfl

theorem kinds_listComma (rest : List Char) :
    kinds (", ".toList ++ rest) = [.comma] ++ kinds rest := by
  change kinds (',' :: ' ' :: rest) = _
  rw [kinds_comma, kinds_space]
  rfl

theorem kinds_semicolon (rest : List Char) : kinds (';' :: rest) = .semicolon :: kinds rest :=
  kinds_of_leading_one rfl

theorem kinds_arrow (rest : List Char) : kinds ('-' :: '>' :: rest) = .arrow :: kinds rest :=
  kinds_of_leading_one rfl

end FormRules.Token
