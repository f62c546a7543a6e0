import FormRules.Json.Token
import FormRules.Proofs.Text.Decimal

/-!
Contract: written tokens, read back by the scanner.

Owns:
- string literals: every text is read back from its escaped form;
- numbers in plain digits;
- tokens that are read back from their written form in front of any text that
  breaks a number off, which are all but ill-written numbers;
- the scan of a text that is put together from blanks and such tokens.

Does not own: the values that the tokens make up.

A string literal is read in two stages, pieces and then text, since an escape
may be half a character.  The escape of one character is always one piece that
stands for this character by itself, so the stages can be followed side by side.
-/

namespace FormRules.Json.Token

open FormRules.Text

/-! ## Strings -/

/-- The piece joins to the character, whatever piece comes next. -/
def Piece.StandsFor (piece : Piece) (character : Char) : Prop :=
  ∀ rest, joinPieces? (piece :: rest) = (joinPieces? rest).map (character :: ·)

theorem Piece.character_standsFor (character : Char) :
    (Piece.character character).StandsFor character :=
  fun _ => rfl

theorem Piece.code_standsFor {unit : Nat} {character : Char}
    (coded : characterOf? unit = some character) : (Piece.code unit).StandsFor character := by
  intro rest
  match rest with
  | [] => simp [joinPieces?, coded]
  | .character _ :: _ => simp [joinPieces?, coded]
  | .code _ :: _ => simp [joinPieces?, coded]

theorem characterOf?_toNat_of_control {character : Char} (control : character.toNat < 0x20) :
    characterOf? character.toNat = some character := by
  have low : (character.toNat < 0xD800) := by omega
  simp [characterOf?, low, Char.ofNat_toNat]

theorem hexValue?_of_control {code : Nat} (control : code < 0x20) :
    hexValue? ['0', '0', Nat.digitChar (code / 16), Nat.digitChar (code % 16)] = some code := by
  have all : ∀ code < 0x20,
      hexValue? ['0', '0', Nat.digitChar (code / 16), Nat.digitChar (code % 16)] =
        some code := by
    decide
  exact all code control

/-- A backslash and a letter are read as what the letter is short for. -/
theorem readPieces_short {escaped character : Char} (rest : List Char)
    (notCode : escaped ≠ 'u') (short : shortEscapes.lookup escaped = some character) :
    readPieces ('\\' :: escaped :: rest) =
      (readPieces rest).map fun (pieces, after) => (.character character :: pieces, after) := by
  rw [readPieces.eq_4 _ _ (by rintro _ _ _ _ _ rfl; exact absurd rfl notCode), short]
  rfl

/-- The three forms of an escape. -/
theorem escape_cases (character : Char) :
    (∃ escaped, escaped ≠ 'u' ∧ shortEscapes.lookup escaped = some character ∧
      escape character = ['\\', escaped]) ∨
    (character.toNat < 0x20 ∧
      escape character = ['\\', 'u', '0', '0', Nat.digitChar (character.toNat / 16),
        Nat.digitChar (character.toNat % 16)]) ∨
    (character ≠ '"' ∧ character ≠ '\\' ∧ 0x20 ≤ character.toNat ∧
      escape character = [character]) := by
  by_cases short : character ∈ ['"', '\\', '\x08', '\x0c', '\n', '\r', '\t']
  · left
    simp only [List.mem_cons, List.not_mem_nil, or_false] at short
    rcases short with rfl | rfl | rfl | rfl | rfl | rfl | rfl
    · exact ⟨'"', by decide⟩
    · exact ⟨'\\', by decide⟩
    · exact ⟨'b', by decide⟩
    · exact ⟨'f', by decide⟩
    · exact ⟨'n', by decide⟩
    · exact ⟨'r', by decide⟩
    · exact ⟨'t', by decide⟩
  · right
    simp only [List.mem_cons, List.not_mem_nil, or_false, not_or] at short
    obtain ⟨quote, backslash, backspace, formFeed, lineFeed, carriageReturn, tab⟩ := short
    simp only [escape, if_neg quote, if_neg backslash, if_neg backspace, if_neg formFeed,
      if_neg lineFeed, if_neg carriageReturn, if_neg tab]
    by_cases control : character.toNat < 0x20
    · exact .inl ⟨control, if_pos control⟩
    · exact .inr ⟨quote, backslash, Nat.le_of_not_lt control, if_neg control⟩

/-- The escape of a character is read as one piece that stands for it. -/
theorem readPieces_escape (character : Char) :
    ∃ piece : Piece, piece.StandsFor character ∧
      ∀ rest, readPieces (escape character ++ rest) =
        (readPieces rest).map fun (pieces, after) => (piece :: pieces, after) := by
  rcases escape_cases character with
    ⟨escaped, notCode, short, written⟩ | ⟨control, written⟩ |
      ⟨notQuote, notBackslash, printed, written⟩
  · refine ⟨.character character, Piece.character_standsFor character, fun rest => ?_⟩
    rw [written]
    exact readPieces_short rest notCode short
  · refine ⟨.code character.toNat,
      Piece.code_standsFor (characterOf?_toNat_of_control control), fun rest => ?_⟩
    rw [written]
    simp only [List.cons_append, List.nil_append, readPieces, hexValue?_of_control control,
      Option.bind_some]
  · refine ⟨.character character, Piece.character_standsFor character, fun rest => ?_⟩
    rw [written, List.singleton_append,
      readPieces.eq_5 _ _ notQuote (fun _ _ _ _ _ isEscape _ => notBackslash isEscape)
        (fun _ _ isEscape _ => notBackslash isEscape),
      if_neg (Nat.not_lt.2 printed)]

/-- A text is read back from its escaped form, up to the closing quote. -/
theorem readPieces_escaped (text rest : List Char) :
    ∃ pieces, joinPieces? pieces = some text ∧
      readPieces (text.flatMap escape ++ '"' :: rest) = some (pieces, rest) := by
  induction text with
  | nil => exact ⟨[], rfl, by rw [List.flatMap_nil, List.nil_append, readPieces]⟩
  | cons first more inductionHypothesis =>
      obtain ⟨pieces, joined, read⟩ := inductionHypothesis
      obtain ⟨piece, standsFor, readFirst⟩ := readPieces_escape first
      refine ⟨piece :: pieces, ?_, ?_⟩
      · rw [standsFor, joined, Option.map_some]
      · rw [List.flatMap_cons, List.append_assoc, readFirst, read, Option.map_some]

/-! ## Tokens -/

/-- A number written in front of such a text ends there. -/
def breaksNumber (rest : List Char) : Bool :=
  rest.head?.all fun character =>
    !(character.isDigit || character == '.' || character == 'e' || character == 'E')

theorem isBlank_cases {character : Char} (blank : isBlank character = true) :
    character = ' ' ∨ character = '\t' ∨ character = '\n' ∨ character = '\r' := by
  simpa only [isBlank, Bool.or_eq_true, beq_iff_eq, or_assoc] using blank

theorem breaksNumber_of_blanks {blanks : List Char}
    (allBlank : ∀ character ∈ blanks, isBlank character = true) :
    breaksNumber blanks = true := by
  cases blanks with
  | nil => rfl
  | cons first more =>
      rcases isBlank_cases (allBlank first List.mem_cons_self) with rfl | rfl | rfl | rfl
      all_goals rfl

/-- The token is read from its written form, and the scan goes on behind it. -/
def ReadsBack (token : Token) : Prop :=
  ∀ rest, breaksNumber rest = true → read? (token.written ++ rest) = some (token, rest)

theorem read?_quote (rest : List Char) :
    read? ('"' :: rest) =
      (readPieces rest).map fun (pieces, after) => (ofPieces pieces, after) :=
  rfl

theorem read?_illegible (rest : List Char) :
    read? (written .illegible ++ rest) = some (.illegible, rest) := by
  have literal : written .illegible = ['"', '\\', 'u', 'd', '8', '0', '0', '"'] := rfl
  have pieces : readPieces ('\\' :: 'u' :: 'd' :: '8' :: '0' :: '0' :: '"' :: rest) =
      some ([.code 0xD800], rest) := by
    simp only [readPieces]
    rfl
  rw [literal]
  simp only [List.cons_append, List.nil_append]
  rw [read?_quote, pieces]
  rfl

/-- A string literal is read as its text, whatever characters that has. -/
theorem read?_string (value : String) (rest : List Char) :
    read? (written (.string value) ++ rest) = some (.string value, rest) := by
  obtain ⟨pieces, joined, read⟩ := readPieces_escaped value.toList rest
  have literal : written (.string value) = '"' :: value.toList.flatMap escape ++ ['"'] := rfl
  rw [literal]
  simp only [List.cons_append, List.append_assoc, List.nil_append]
  rw [read?_quote, read]
  simp only [Option.map_some, ofPieces, joined, String.ofList_toList]

/-- Tokens other than numbers are read in front of any text. -/
theorem read?_written {token : Token} (notNumber : ∀ literal, token ≠ .number literal)
    (rest : List Char) : read? (token.written ++ rest) = some (token, rest) := by
  match token with
  | .openObject | .closeObject | .openArray | .closeArray | .comma | .colon => rfl
  | .null =>
      have literal : written .null = ['n', 'u', 'l', 'l'] := rfl
      rw [literal]
      rfl
  | .bool true =>
      have literal : written (.bool true) = ['t', 'r', 'u', 'e'] := rfl
      rw [literal]
      rfl
  | .bool false =>
      have literal : written (.bool false) = ['f', 'a', 'l', 's', 'e'] := rfl
      rw [literal]
      rfl
  | .number literal => exact absurd rfl (notNumber literal)
  | .string value => exact read?_string value rest
  | .illegible => exact read?_illegible rest

theorem readsBack {token : Token} (notNumber : ∀ literal, token ≠ .number literal) :
    token.ReadsBack :=
  fun rest _ => read?_written notNumber rest

/-! ## Numbers -/

theorem read?_of_isDigit {first : Char} (isDigit : first.isDigit = true) (rest : List Char) :
    read? (first :: rest) = (readUnsigned (first :: rest)).map fun (digits, after) =>
      (.number (String.ofList digits), after) := by
  unfold read?
  split
  case h_11 =>
    unfold readNumber
    split
    next signed =>
      cases signed
      cases isDigit
    next => rfl
  all_goals
    next same =>
      cases same
      cases isDigit

theorem breaksNumber_cases {rest : List Char} (breaks : breaksNumber rest = true) :
    rest = [] ∨ ∃ first more, rest = first :: more ∧ first.isDigit = false ∧ first ≠ '.' ∧
      first ≠ 'e' ∧ first ≠ 'E' := by
  cases rest with
  | nil => exact .inl rfl
  | cons first more =>
      simp only [breaksNumber, List.head?_cons, Option.all_some, Bool.not_eq_true',
        Bool.or_eq_false_iff, beq_eq_false_iff_ne] at breaks
      exact .inr ⟨first, more, rfl, breaks.1.1.1, breaks.1.1.2, breaks.1.2, breaks.2⟩

/-- A run of digits ends where the text breaks a number off. -/
theorem readDigits_append {digits rest : List Char} (filled : digits ≠ [])
    (allDigits : ∀ digit ∈ digits, digit.isDigit = true) (breaks : breaksNumber rest = true) :
    readDigits (digits ++ rest) = some (digits, rest) := by
  have ends : rest.takeWhile Char.isDigit = [] ∧ rest.dropWhile Char.isDigit = rest := by
    rcases breaksNumber_cases breaks with rfl | ⟨first, more, rfl, noDigit, _⟩
    · exact ⟨rfl, rfl⟩
    · simp [noDigit]
  simp [readDigits, List.takeWhile_append_of_pos allDigits,
    List.dropWhile_append_of_pos allDigits, ends, filled]

theorem readFraction_of_breaksNumber {rest : List Char} (breaks : breaksNumber rest = true) :
    readFraction rest = some ([], rest) := by
  rcases breaksNumber_cases breaks with rfl | ⟨first, more, rfl, _, notDot, _⟩
  · rfl
  · unfold readFraction
    split
    next same => exact absurd (List.cons.inj same).1 notDot
    next => rfl

theorem readExponent_of_breaksNumber {rest : List Char} (breaks : breaksNumber rest = true) :
    readExponent rest = some ([], rest) := by
  rcases breaksNumber_cases breaks with rfl | ⟨first, more, rfl, _, _, notSmall, notCapital⟩
  · rfl
  · simp [readExponent, notSmall, notCapital]

/-- A number in plain digits is read back. -/
theorem readsBack_decimal (value : Nat) : (Token.number (decimal value)).ReadsBack := by
  intro rest breaks
  have allDigits : ∀ digit ∈ (decimal value).toList, digit.isDigit = true :=
    fun _ => isDigit_of_mem_decimal
  have whole : readWhole ((decimal value).toList ++ rest) =
      some ((decimal value).toList, rest) := by
    have digits := readDigits_append (toList_decimal_ne_nil value) allDigits breaks
    by_cases zero : value = 0
    · rw [zero, toList_decimal, Nat.toDigits_zero]
      rfl
    · obtain ⟨first, more, form, notZero⟩ := toDigits_head_ne_zero (Nat.pos_of_ne_zero zero)
      rw [toList_decimal, form, List.cons_append] at digits ⊢
      unfold readWhole
      split
      next same => exact absurd (List.cons.inj same).1 notZero
      next => exact digits
  have unsigned : readUnsigned ((decimal value).toList ++ rest) =
      some ((decimal value).toList, rest) := by
    simp [readUnsigned, whole, readFraction_of_breaksNumber breaks,
      readExponent_of_breaksNumber breaks]
  obtain ⟨first, more, digits⟩ := List.exists_cons_of_ne_nil (toList_decimal_ne_nil value)
  rw [digits, List.forall_mem_cons] at allDigits
  rw [digits, List.cons_append] at unsigned
  have literal : (Token.number (decimal value)).written = (decimal value).toList := rfl
  rw [literal, digits, List.cons_append, read?_of_isDigit allDigits.1, unsigned, Option.map_some,
    ← digits]
  simp only [String.ofList_toList]

/-! ## Scans -/

/-- The text is scanned into the tokens, with as much fuel as there are tokens or
more; there are no more of them than characters. -/
structure Scans (source : List Char) (tokens : List Token) : Prop where
  enough : tokens.length ≤ source.length
  scanned : ∀ fuel ≥ tokens.length, scanWithin fuel source = some tokens

variable {source rest : List Char} {tokens : List Token}

theorem Scans.scan? (scans : Scans source tokens) : scan? source = some tokens :=
  scans.scanned source.length scans.enough

theorem scans_nil : Scans [] [] where
  enough := Nat.le_refl 0
  scanned := by
    intro fuel _
    cases fuel with
    | zero => rfl
    | succ fuel => rfl

/-- Blanks in front of a text add no token. -/
theorem Scans.blank {character : Char} (scans : Scans source tokens)
    (blank : isBlank character = true) : Scans (character :: source) tokens where
  enough := Nat.le_succ_of_le scans.enough
  scanned := by
    intro fuel enough
    rw [← scans.scanned fuel enough]
    cases fuel with
    | zero => rw [scanWithin, scanWithin, List.all_cons, blank, Bool.true_and]
    | succ fuel => rw [scanWithin, scanWithin, List.dropWhile_cons_of_pos blank]

theorem Scans.blanks {front : List Char} (scans : Scans source tokens)
    (blanks : ∀ character ∈ front, isBlank character = true) :
    Scans (front ++ source) tokens := by
  induction front with
  | nil => exact scans
  | cons first more inductionHypothesis =>
      have behind := inductionHypothesis fun character member =>
        blanks character (List.mem_cons_of_mem first member)
      exact behind.blank (blanks first List.mem_cons_self)

/-- No token starts with a blank. -/
theorem read?_blank {character : Char} (blank : isBlank character = true)
    (rest : List Char) : read? (character :: rest) = none := by
  rcases isBlank_cases blank with rfl | rfl | rfl | rfl
  all_goals rfl

/-- The written form of a token that reads back is not empty and does not start
with a blank. -/
theorem ReadsBack.written_eq_cons {token : Token} (readsBack : token.ReadsBack) :
    ∃ first more, token.written = first :: more ∧ isBlank first = false := by
  have read := readsBack [] rfl
  rw [List.append_nil] at read
  match written : token.written with
  | [] =>
      rw [written] at read
      cases read
  | first :: more =>
      refine ⟨first, more, rfl, Bool.eq_false_iff.2 fun blank => ?_⟩
      rw [written, read?_blank blank] at read
      cases read

/-- A token that is read in front of a text is scanned as the first one. -/
theorem Scans.token_of_read? {token : Token} (scans : Scans rest tokens)
    (readsBack : token.ReadsBack) (read : read? (token.written ++ rest) = some (token, rest)) :
    Scans (token.written ++ rest) (token :: tokens) := by
  obtain ⟨first, more, written, notBlank⟩ := readsBack.written_eq_cons
  refine ⟨?_, fun fuel enough => ?_⟩
  · rw [written, List.length_append, List.length_cons, List.length_cons]
    have := scans.enough
    omega
  · cases fuel with
    | zero => cases enough
    | succ fuel =>
        have start : (token.written ++ rest).dropWhile isBlank = token.written ++ rest := by
          rw [written, List.cons_append, List.dropWhile_cons_of_neg (by simp [notBlank])]
        have behind := scans.scanned fuel (Nat.le_of_succ_le_succ enough)
        rw [written, List.cons_append] at start read ⊢
        rw [scanWithin, start]
        simp only [read, behind, Option.map_some]

theorem Scans.token {token : Token} (scans : Scans rest tokens) (readsBack : token.ReadsBack)
    (breaks : breaksNumber rest = true) : Scans (token.written ++ rest) (token :: tokens) :=
  scans.token_of_read? readsBack (readsBack rest breaks)

end FormRules.Json.Token
