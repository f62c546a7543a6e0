import FormRules.Proofs.Token.Gap

/-!
Contract: which pieces of text are written for which tokens.

Owns:
- the shapes of lexemes, each with the value it stands for, and the longest
  piece of a shape;
- the reader takes a piece of text exactly where it is a lexeme;
- the reader fails exactly at the end and before a literal that never closes.

Does not own: the gaps between the lexemes.
-/

namespace FormRules.Token

open FormRules.Text

/-! ## Shapes -/

def IsWord (text : String) : Prop :=
  isIdentifier text = true

/-- The text has the given shape, and in front of what follows it nothing
longer has. -/
def IsLongest (shape : String → Prop) (text : String) (follow : List Char) : Prop :=
  shape text ∧ ∀ longer : String, shape longer → longer.toList <+: text.toList ++ follow →
    longer.toList.length ≤ text.toList.length

/-- The inside of a literal, as written, with the value it stands for. -/
inductive LiteralBody (quote : Char) : List Char → List Char → Prop where
  | nil : LiteralBody quote [] []
  | plain {first : Char} {written value : List Char} (noQuote : first ≠ quote)
      (noBackslash : first ≠ '\\') (more : LiteralBody quote written value) :
      LiteralBody quote (first :: written) (first :: value)
  | escape {escaped : Char} {written value : List Char}
      (more : LiteralBody quote written value) :
      LiteralBody quote ('\\' :: escaped :: written) (unescape quote escaped ++ value)

def quotes : List Char :=
  ['\x27', '"']

/-- A literal that is opened and not closed in the rest of the source. -/
def NeverCloses (source : List Char) : Prop :=
  ∃ quote ∈ quotes, ∃ rest, source = quote :: rest ∧
    ¬∃ written value after, rest = written ++ quote :: after ∧ LiteralBody quote written value

/-- Signs of more than one character. -/
def signs : List (List Char) :=
  [['-', '>'], ['?', '-', '>'], [':', ':']]

/-- A character that is a token by itself: it starts no gap and no other
lexeme. -/
structure StandsAlone (first : Char) (follow : List Char) : Prop where
  visible : isBlank first = false
  noComment : ∀ opener ∈ commentOpeners, ¬opener <+: first :: follow
  noWord : isWordStart first = false
  noDigit : first.isDigit = false
  noQuote : first ∉ quotes
  noVariable : first = '$' → follow.head?.any isWordStart = false
  noSign : ∀ sign ∈ signs, ¬sign <+: first :: follow

/-- The piece of text that a token is written as, in front of what follows it. -/
inductive IsLexeme (follow : List Char) : Token.Kind → List Char → Prop where
  | variable {name : String} (longest : IsLongest IsWord name follow) :
      IsLexeme follow (.variable name) ('$' :: name.toList)
  | identifier {name : String}
      (longest : IsLongest IsWord name follow) :
      IsLexeme follow (.identifier name) name.toList
  | number {digits : String} (longest : IsLongest IsNumeral digits follow) :
      IsLexeme follow (.number digits) digits.toList
  | text {quote : Char} {written value : List Char} (opens : quote ∈ quotes)
      (body : LiteralBody quote written value) :
      IsLexeme follow (.text (String.ofList value)) (quote :: (written ++ [quote]))
  | arrow : IsLexeme follow .arrow ['-', '>']
  | nullSafeArrow : IsLexeme follow .arrow ['?', '-', '>']
  | doubleColon : IsLexeme follow .doubleColon [':', ':']
  | symbol {first : Char} (alone : StandsAlone first follow) :
      IsLexeme follow (.ofSymbol first) [first]

/-! ## The longest piece -/

theorem length_le_takeWhile {α : Type} {test : α → Bool} {front source : List α}
    (inside : ∀ item ∈ front, test item = true) (begins : front <+: source) :
    front.length ≤ (source.takeWhile test).length := by
  obtain ⟨rest, rfl⟩ := begins
  rw [List.takeWhile_append_of_pos inside, List.length_append]
  omega

/-- At one place of a source there is one longest text of a shape. -/
theorem IsLongest.unique {shape : String → Prop} {text other : String}
    {follow otherFollow : List Char} (longest : IsLongest shape text follow)
    (otherLongest : IsLongest shape other otherFollow)
    (same : text.toList ++ follow = other.toList ++ otherFollow) :
    text = other ∧ follow = otherFollow := by
  have atMost := longest.2 other otherLongest.1 ⟨otherFollow, same.symm⟩
  have atLeast := otherLongest.2 text longest.1 ⟨follow, same⟩
  obtain ⟨sameText, sameFollow⟩ := List.append_inj same (Nat.le_antisymm atLeast atMost)
  exact ⟨String.toList_inj.1 sameText, sameFollow⟩

/-! ## Words -/

theorem IsWord.exists_cons {text : String} (word : IsWord text) :
    ∃ first rest, text.toList = first :: rest ∧ isWordStart first = true ∧
      ∀ character ∈ text.toList, isWordCharacter character = true := by
  unfold IsWord isIdentifier at word
  split at word
  next => cases word
  next first rest written =>
    rw [Bool.and_eq_true, List.all_eq_true] at word
    refine ⟨first, rest, written, word.1, ?_⟩
    intro character member
    rw [written] at member
    rcases List.mem_cons.1 member with isFirst | inRest
    · exact isFirst ▸ isWordCharacter_of_isWordStart word.1
    · exact word.2 character inRest

theorem spanWord_append_rest (source : List Char) :
    (spanWord source).1 ++ (spanWord source).2 = source :=
  List.takeWhile_append_dropWhile

theorem isLongest_spanWord {first : Char} (rest : List Char)
    (start : isWordStart first = true) :
    IsLongest IsWord (String.ofList (spanWord (first :: rest)).1)
      (spanWord (first :: rest)).2 := by
  have word := isWordCharacter_of_isWordStart start
  refine ⟨?_, ?_⟩
  · simp only [IsWord, isIdentifier, spanWord, List.takeWhile_cons, word, if_true,
      String.toList_ofList, start, Bool.true_and]
    exact List.all_takeWhile
  · intro longer isWord begins
    obtain ⟨_, _, _, _, inside⟩ := isWord.exists_cons
    rw [String.toList_ofList, spanWord_append_rest] at begins
    rw [String.toList_ofList]
    exact length_le_takeWhile inside begins

/-- Where one reading is the longest, it is the reading taken. -/
theorem IsLongest.eq_of_append {shape : String → Prop} {text : String} {follow : List Char}
    {read : List Char × List Char} (longest : IsLongest shape text follow)
    (readLongest : IsLongest shape (String.ofList read.1) read.2)
    (whole : read.1 ++ read.2 = text.toList ++ follow) :
    read = (text.toList, follow) := by
  obtain ⟨rfl, rfl⟩ := longest.unique readLongest (by rw [String.toList_ofList, whole])
  rw [String.toList_ofList]

theorem spanWord_of_isLongest {name : String} {follow : List Char}
    (longest : IsLongest IsWord name follow) :
    spanWord (name.toList ++ follow) = (name.toList, follow) := by
  obtain ⟨first, rest, written, start, _⟩ := longest.1.exists_cons
  have read := isLongest_spanWord (rest ++ follow) start
  rw [← List.cons_append, ← written] at read
  exact longest.eq_of_append read (spanWord_append_rest _)

/-! ## Numerals -/

theorem spanDigits_append_rest (source : List Char) :
    (spanDigits source).1 ++ (spanDigits source).2 = source :=
  List.takeWhile_append_dropWhile

/-- A number is the digits, or the digits, a point and the digits behind it. -/
theorem spanNumber_cases (source : List Char) :
    (∃ digit rest, (spanDigits source).2 = '.' :: digit :: rest ∧ digit.isDigit = true ∧
      spanNumber source = ((spanDigits source).1 ++ '.' :: (spanDigits (digit :: rest)).1,
        (spanDigits (digit :: rest)).2)) ∨
    (∀ digit rest, (spanDigits source).2 = '.' :: digit :: rest → digit.isDigit = false) ∧
      spanNumber source = spanDigits source := by
  unfold spanNumber
  split
  next whole digit rest split =>
    rw [split]
    by_cases isDigit : digit.isDigit = true
    · exact .inl ⟨digit, rest, rfl, isDigit, by simp [isDigit]⟩
    · refine .inr ⟨?_, by simp [isDigit]⟩
      intro other tail same
      cases same
      simpa using isDigit
  next split =>
    refine .inr ⟨?_, rfl⟩
    intro digit rest same
    exact (split (spanDigits source).1 digit rest (Prod.ext rfl same)).elim

theorem spanNumber_append_rest (source : List Char) :
    (spanNumber source).1 ++ (spanNumber source).2 = source := by
  have whole := spanDigits_append_rest source
  rcases spanNumber_cases source with ⟨digit, rest, point, _, read⟩ | ⟨_, read⟩
  · have fraction := spanDigits_append_rest (digit :: rest)
    rw [read, List.append_assoc, List.cons_append, fraction, ← point, whole]
  · rw [read, whole]

theorem isDigit_of_mem_spanDigits {source : List Char} {digit : Char}
    (member : digit ∈ (spanDigits source).1) : digit.isDigit = true :=
  List.all_eq_true.1 List.all_takeWhile digit member

theorem spanDigits_ne_nil {first : Char} (rest : List Char) (digit : first.isDigit = true) :
    (spanDigits (first :: rest)).1 ≠ [] := by
  simp [spanDigits, digit]

theorem isNumeral_spanNumber {first : Char} (rest : List Char)
    (digit : first.isDigit = true) :
    IsNumeral (String.ofList (spanNumber (first :: rest)).1) := by
  refine ⟨(spanDigits (first :: rest)).1, spanDigits_ne_nil rest digit,
    fun _ => isDigit_of_mem_spanDigits, ?_⟩
  rw [String.toList_ofList]
  rcases spanNumber_cases (first :: rest) with ⟨next, more, _, nextDigit, read⟩ | ⟨_, read⟩
  · exact .inr ⟨(spanDigits (next :: more)).1, spanDigits_ne_nil more nextDigit,
      fun _ => isDigit_of_mem_spanDigits, by rw [read]⟩
  · exact .inl (by rw [read])

theorem length_spanDigits_le (source : List Char) :
    (spanDigits source).1.length ≤ (spanNumber source).1.length := by
  rcases spanNumber_cases source with ⟨_, _, _, _, read⟩ | ⟨_, read⟩ <;> simp [read]

/-- No numeral at the front of a source is longer than the number read. -/
theorem length_le_spanNumber {numeral : String} {source : List Char}
    (isNumeral : IsNumeral numeral) (begins : numeral.toList <+: source) :
    numeral.toList.length ≤ (spanNumber source).1.length := by
  obtain ⟨whole, _, digits, written | ⟨fraction, nonempty, fractionDigits, written⟩⟩ := isNumeral
  · rw [written] at begins ⊢
    exact Nat.le_trans (length_le_takeWhile digits begins) (length_spanDigits_le source)
  · obtain ⟨tail, rfl⟩ := begins
    obtain ⟨digit, more, rfl⟩ := List.exists_cons_of_ne_nil nonempty
    have split : spanDigits (numeral.toList ++ tail) = (whole, '.' :: digit :: (more ++ tail)) := by
      rw [written, List.append_assoc]
      refine spanDigits_append digits ?_
      intro next isNext
      cases isNext
      rfl
    rcases spanNumber_cases (numeral.toList ++ tail) with
      ⟨next, rest, point, _, read⟩ | ⟨noFraction, _⟩
    · rw [split] at point read
      cases point
      have longEnough : (digit :: more).length ≤ (spanDigits (digit :: (more ++ tail))).1.length :=
        length_le_takeWhile fractionDigits (List.prefix_append (digit :: more) tail)
      rw [read, written]
      simp only [List.length_append, List.length_cons] at longEnough ⊢
      omega
    · have isDigit := fractionDigits digit List.mem_cons_self
      rw [noFraction digit (more ++ tail) (by rw [split])] at isDigit
      cases isDigit

theorem isLongest_spanNumber {first : Char} (rest : List Char)
    (digit : first.isDigit = true) :
    IsLongest IsNumeral (String.ofList (spanNumber (first :: rest)).1)
      (spanNumber (first :: rest)).2 := by
  refine ⟨isNumeral_spanNumber rest digit, ?_⟩
  intro longer isNumeral begins
  rw [String.toList_ofList, spanNumber_append_rest] at begins
  rw [String.toList_ofList]
  exact length_le_spanNumber isNumeral begins

theorem spanNumber_of_isLongest {digits : String} {follow : List Char}
    (longest : IsLongest IsNumeral digits follow) :
    spanNumber (digits.toList ++ follow) = (digits.toList, follow) := by
  obtain ⟨first, rest, written, digit⟩ := longest.1.exists_cons
  have read := isLongest_spanNumber (rest ++ follow) digit
  rw [← List.cons_append, ← written] at read
  exact longest.eq_of_append read (spanNumber_append_rest _)

/-! ## Literals -/

theorem readLiteral_append {quote : Char} {source value written after : List Char}
    (read : readLiteral quote source = some (value, written, after)) :
    ∃ body, written = body ++ [quote] ∧ source = body ++ quote :: after ∧
      LiteralBody quote body value := by
  fun_induction readLiteral quote source generalizing value written after with
  | case1 => cases read
  | case2 => cases read
  | case3 escaped rest inductionHypothesis =>
      obtain ⟨⟨tailValue, tailWritten, tail⟩, readTail, same⟩ := Option.map_eq_some_iff.1 read
      cases same
      obtain ⟨body, rfl, rfl, isBody⟩ := inductionHypothesis readTail
      exact ⟨'\\' :: escaped :: body, rfl, rfl, .escape isBody⟩
  | case4 rest _ _ =>
      cases read
      exact ⟨[], rfl, rfl, .nil⟩
  | case5 first rest lone escape noQuote inductionHypothesis =>
      obtain ⟨⟨tailValue, tailWritten, tail⟩, readTail, same⟩ := Option.map_eq_some_iff.1 read
      cases same
      obtain ⟨body, rfl, rfl, isBody⟩ := inductionHypothesis readTail
      have noBackslash : first ≠ '\\' := by
        rintro rfl
        cases body with
        | nil => exact escape _ _ rfl rfl
        | cons second others => exact escape _ _ rfl rfl
      exact ⟨first :: body, rfl, rfl, .plain noQuote noBackslash isBody⟩

theorem readLiteral_of_body {quote : Char} {written value : List Char} (after : List Char)
    (noBackslash : quote ≠ '\\') (body : LiteralBody quote written value) :
    readLiteral quote (written ++ quote :: after) = some (value, written ++ [quote], after) := by
  induction body with
  | nil => simp [readLiteral, noBackslash]
  | plain noQuote plain more inductionHypothesis =>
      simp [readLiteral, noQuote, plain, inductionHypothesis]
  | escape more inductionHypothesis => simp [readLiteral, inductionHypothesis]

/-! ## Branches of the reader -/

theorem lexeme?_variable {rest : List Char} (word : rest.head?.any isWordStart = true) :
    lexeme? ('$' :: rest) = some ⟨.variable (String.ofList (spanWord rest).1),
      '$' :: (spanWord rest).1, (spanWord rest).2⟩ := by
  simp [lexeme?, word]

theorem lexeme?_identifier {first : Char} (rest : List Char)
    (start : isWordStart first = true) :
    lexeme? (first :: rest) = some ⟨.identifier (String.ofList (spanWord (first :: rest)).1),
      (spanWord (first :: rest)).1, (spanWord (first :: rest)).2⟩ := by
  have noDollar : first ≠ '$' := by
    rintro rfl
    revert start
    decide
  simp [lexeme?, noDollar, start]

theorem lexeme?_number {first : Char} (rest : List Char) (digit : first.isDigit = true) :
    lexeme? (first :: rest) = some ⟨.number (String.ofList (spanNumber (first :: rest)).1),
      (spanNumber (first :: rest)).1, (spanNumber (first :: rest)).2⟩ := by
  have noDollar : first ≠ '$' := by
    rintro rfl
    revert digit
    decide
  have noStart := (isWordCharacter_of_isDigit digit).2
  simp [lexeme?, noDollar, noStart, digit]

theorem lexeme?_quote {quote : Char} (rest : List Char) (opens : quote ∈ quotes) :
    lexeme? (quote :: rest) = (readLiteral quote rest).map fun (value, written, after) =>
      ⟨.text (String.ofList value), quote :: written, after⟩ := by
  have noStart : isWordStart '\x27' = false ∧ isWordStart '"' = false := by decide
  simp only [quotes, List.mem_cons, List.not_mem_nil, or_false] at opens
  rcases opens with rfl | rfl <;> simp [lexeme?, noStart]

theorem lexeme?_arrow (rest : List Char) :
    lexeme? ('-' :: '>' :: rest) = some ⟨.arrow, ['-', '>'], rest⟩ := rfl

theorem lexeme?_nullSafeArrow (rest : List Char) :
    lexeme? ('?' :: '-' :: '>' :: rest) = some ⟨.arrow, ['?', '-', '>'], rest⟩ := rfl

theorem lexeme?_doubleColon (rest : List Char) :
    lexeme? (':' :: ':' :: rest) = some ⟨.doubleColon, [':', ':'], rest⟩ := rfl

theorem lexeme?_symbol {first : Char} {rest : List Char} (alone : StandsAlone first rest) :
    lexeme? (first :: rest) = some ⟨.ofSymbol first, [first], rest⟩ := by
  have noVariable : ¬(first = '$' ∧ rest.head?.any isWordStart = true) := by
    rintro ⟨isDollar, word⟩
    rw [alone.noVariable isDollar] at word
    cases word
  have noQuote := alone.noQuote
  simp only [quotes, List.mem_cons, List.not_mem_nil, or_false, not_or] at noQuote
  simp only [lexeme?, Bool.and_eq_true, decide_eq_true_eq, noVariable, alone.noWord,
    alone.noDigit, noQuote, Bool.false_eq_true, if_false, decide_false, Bool.or_false]
  split
  next after => exact absurd ⟨after, rfl⟩ (alone.noSign ['-', '>'] (by decide))
  next after => exact absurd ⟨after, rfl⟩ (alone.noSign ['?', '-', '>'] (by decide))
  next after => exact absurd ⟨after, rfl⟩ (alone.noSign [':', ':'] (by decide))
  next => rfl

/-- The character at which a gap has stopped is of one of these sorts. -/
theorem first_cases {first : Char} {rest : List Char} (visible : isBlank first = false)
    (noComment : ∀ opener ∈ commentOpeners, ¬opener <+: first :: rest) :
    (first = '$' ∧ rest.head?.any isWordStart = true) ∨ isWordStart first = true ∨
      first.isDigit = true ∨ first ∈ quotes ∨ (∃ sign ∈ signs, sign <+: first :: rest) ∨
      StandsAlone first rest := by
  by_cases noVariable : first = '$' ∧ rest.head?.any isWordStart = true
  · exact .inl noVariable
  by_cases noWord : isWordStart first = true
  · exact .inr (.inl noWord)
  by_cases noDigit : first.isDigit = true
  · exact .inr (.inr (.inl noDigit))
  by_cases noQuote : first ∈ quotes
  · exact .inr (.inr (.inr (.inl noQuote)))
  by_cases noSign : ∃ sign ∈ signs, sign <+: first :: rest
  · exact .inr (.inr (.inr (.inr (.inl noSign))))
  refine .inr (.inr (.inr (.inr (.inr ?_))))
  exact {
    visible
    noComment
    noWord := by simpa using noWord
    noDigit := by simpa using noDigit
    noQuote
    noVariable := fun isDollar => by
      simpa using fun word => noVariable ⟨isDollar, word⟩
    noSign := fun sign member begins => noSign ⟨sign, member, begins⟩ }

/-! ## The reader and the shapes -/

/-- What the reader takes at the end of a gap is a lexeme. -/
theorem isLexeme_of_lexeme? {first : Char} {rest : List Char} {lexeme : Lexeme}
    (visible : isBlank first = false)
    (noComment : ∀ opener ∈ commentOpeners, ¬opener <+: first :: rest)
    (found : lexeme? (first :: rest) = some lexeme) :
    first :: rest = lexeme.written ++ lexeme.rest ∧
      IsLexeme lexeme.rest lexeme.kind lexeme.written := by
  rcases first_cases visible noComment with
    ⟨rfl, word⟩ | start | digit | opens | ⟨sign, member, after, written⟩ | alone
  · rw [lexeme?_variable word] at found
    cases found
    cases rest with
    | nil => cases word
    | cons second tail =>
        refine ⟨by rw [List.cons_append, spanWord_append_rest], ?_⟩
        have isLexeme := IsLexeme.variable (isLongest_spanWord tail word)
        rwa [String.toList_ofList] at isLexeme
  · rw [lexeme?_identifier rest start] at found
    cases found
    refine ⟨(spanWord_append_rest _).symm, ?_⟩
    have isLexeme := IsLexeme.identifier (isLongest_spanWord rest start)
    rwa [String.toList_ofList] at isLexeme
  · rw [lexeme?_number rest digit] at found
    cases found
    refine ⟨(spanNumber_append_rest _).symm, ?_⟩
    have isLexeme := IsLexeme.number (isLongest_spanNumber rest digit)
    rwa [String.toList_ofList] at isLexeme
  · rw [lexeme?_quote rest opens] at found
    obtain ⟨⟨value, written, after⟩, read, same⟩ := Option.map_eq_some_iff.1 found
    cases same
    obtain ⟨body, rfl, rfl, isBody⟩ := readLiteral_append read
    exact ⟨by simp, .text opens isBody⟩
  · simp only [signs, List.mem_cons, List.not_mem_nil, or_false] at member
    rw [← written] at found
    rcases member with rfl | rfl | rfl
    · cases found
      exact ⟨written.symm, .arrow⟩
    · cases found
      exact ⟨written.symm, .nullSafeArrow⟩
    · cases found
      exact ⟨written.symm, .doubleColon⟩
  · rw [lexeme?_symbol alone] at found
    cases found
    exact ⟨rfl, .symbol alone⟩

/-- Every lexeme is taken by the reader as it is. -/
theorem lexeme?_of_isLexeme {follow written : List Char} {kind : Token.Kind}
    (isLexeme : IsLexeme follow kind written) :
    lexeme? (written ++ follow) = some ⟨kind, written, follow⟩ := by
  cases isLexeme with
  | @«variable» name longest =>
      have span := spanWord_of_isLongest longest
      obtain ⟨first, rest, toList, start, _⟩ := longest.1.exists_cons
      have word : (name.toList ++ follow).head?.any isWordStart = true := by
        rw [toList]
        exact start
      rw [List.cons_append, lexeme?_variable word, span, String.ofList_toList]
  | @identifier name longest =>
      have span := spanWord_of_isLongest longest
      obtain ⟨first, rest, toList, start, _⟩ := longest.1.exists_cons
      rw [toList, List.cons_append] at span ⊢
      rw [lexeme?_identifier _ start, span, ← toList, String.ofList_toList]
  | @number digits longest =>
      have span := spanNumber_of_isLongest longest
      obtain ⟨first, rest, toList, digit⟩ := longest.1.exists_cons
      rw [toList, List.cons_append] at span ⊢
      rw [lexeme?_number _ digit, span, ← toList, String.ofList_toList]
  | @text quote body value opens isBody =>
      have noBackslash : quote ≠ '\\' := by
        rintro rfl
        revert opens
        decide
      rw [List.cons_append, List.append_assoc, List.singleton_append, lexeme?_quote _ opens,
        readLiteral_of_body follow noBackslash isBody, Option.map_some]
  | arrow => exact lexeme?_arrow follow
  | nullSafeArrow => exact lexeme?_nullSafeArrow follow
  | doubleColon => exact lexeme?_doubleColon follow
  | symbol alone => exact lexeme?_symbol alone

/-- Apart from the end of the source, the reader fails only before a literal
that never closes. -/
theorem neverCloses_of_lexeme? {first : Char} {rest : List Char} (visible : isBlank first = false)
    (noComment : ∀ opener ∈ commentOpeners, ¬opener <+: first :: rest)
    (failed : lexeme? (first :: rest) = none) :
    NeverCloses (first :: rest) := by
  rcases first_cases visible noComment with
    ⟨rfl, word⟩ | start | digit | opens | ⟨sign, member, after, written⟩ | alone
  · rw [lexeme?_variable word] at failed
    cases failed
  · rw [lexeme?_identifier rest start] at failed
    cases failed
  · rw [lexeme?_number rest digit] at failed
    cases failed
  · refine ⟨first, opens, rest, rfl, ?_⟩
    rintro ⟨written, value, after, rfl, isBody⟩
    have closed : IsLexeme after _ _ := .text opens isBody
    have found := lexeme?_of_isLexeme closed
    rw [List.cons_append, List.append_assoc, List.singleton_append, failed] at found
    cases found
  · simp only [signs, List.mem_cons, List.not_mem_nil, or_false] at member
    rw [← written] at failed
    rcases member with rfl | rfl | rfl <;> cases failed
  · rw [lexeme?_symbol alone] at failed
    cases failed

theorem lexeme?_of_neverCloses {source : List Char} (neverCloses : NeverCloses source) :
    lexeme? source = none := by
  obtain ⟨quote, opens, rest, rfl, unclosed⟩ := neverCloses
  rw [lexeme?_quote rest opens, Option.map_eq_none_iff]
  cases read : readLiteral quote rest with
  | none => rfl
  | some result =>
      obtain ⟨value, written, after⟩ := result
      obtain ⟨body, _, split, isBody⟩ := readLiteral_append read
      exact absurd ⟨body, value, after, split, isBody⟩ unclosed

theorem IsLexeme.ne_nil {follow written : List Char} {kind : Token.Kind}
    (isLexeme : IsLexeme follow kind written) : written ≠ [] := by
  cases isLexeme with
  | identifier longest =>
      obtain ⟨first, rest, toList, _⟩ := longest.1.exists_cons
      simp [toList]
  | number longest =>
      obtain ⟨first, rest, toList, _⟩ := longest.1.exists_cons
      simp [toList]
  | _ => simp

end FormRules.Token
