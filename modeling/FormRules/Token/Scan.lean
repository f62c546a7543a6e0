import FormRules.Text.Blank
import FormRules.Text.Numeric
import FormRules.Token

/-!
Contract: a source text as a list of tokens.

Owns:
- the gaps between tokens (blanks, line comments, block comments);
- the lexeme at the front of a text, with the characters it is written in;
- `tokenize`, which stops at the end of the text or at a literal that is never
  closed.

Does not own: what a sequence of tokens means.
-/

namespace FormRules.Token

open FormRules.Text

/-! ## Gaps -/

/-- Where the reader of a gap stands. -/
inductive GapMode where
  | between
  | lineComment
  | blockComment
deriving DecidableEq, Repr

/-- A place in a source: the current line and the text from there on. -/
structure Cursor where
  line : Nat
  rest : List Char
deriving DecidableEq, Repr

/-- The line after a character has been passed. -/
def lineAfter (line : Nat) (character : Char) : Nat :=
  if character = '\n' then line + 1 else line

/-- Pass blanks and comments.  A line comment leaves its line feed to be
passed as a blank; a block comment that is never closed takes all that is
left. -/
def skipGap : GapMode → Nat → List Char → Cursor
  | _, line, [] => ⟨line, []⟩
  | .between, line, '/' :: '/' :: rest => skipGap .lineComment line rest
  | .between, line, '/' :: '*' :: rest => skipGap .blockComment line rest
  | .between, line, '#' :: rest => skipGap .lineComment line rest
  | .between, line, character :: rest =>
      if isBlank character then skipGap .between (lineAfter line character) rest
      else ⟨line, character :: rest⟩
  | .lineComment, line, character :: rest =>
      skipGap (if character = '\n' then .between else .lineComment)
        (lineAfter line character) rest
  | .blockComment, line, '*' :: '/' :: rest => skipGap .between line rest
  | .blockComment, line, character :: rest =>
      skipGap .blockComment (lineAfter line character) rest

/-! ## Lexemes -/

/-- The token at the front of a text, the characters it is written in, and the
text after it. -/
structure Lexeme where
  kind : Token.Kind
  written : List Char
  rest : List Char
deriving DecidableEq, Repr

/-- What a backslash and the next character stand for inside a literal.  Only
double quotes know the escapes for line feed, tab and dollar; an unknown
escape keeps its backslash. -/
def unescape (quote escaped : Char) : List Char :=
  if escaped = '\\' then ['\\']
  else if escaped = quote then [quote]
  else if quote = '"' && escaped = 'n' then ['\n']
  else if quote = '"' && escaped = 't' then ['\t']
  else if quote = '"' && escaped = '$' then ['$']
  else ['\\', escaped]

/-- The value of a literal, the characters it is written in without the
opening quote, and the text after it; nothing if the literal is never
closed. -/
def readLiteral (quote : Char) : List Char → Option (List Char × List Char × List Char)
  | [] => none
  | '\\' :: [] => none
  | '\\' :: escaped :: rest =>
      (readLiteral quote rest).map fun (value, written, after) =>
        (unescape quote escaped ++ value, '\\' :: escaped :: written, after)
  | character :: rest =>
      if character = quote then some ([], [character], rest)
      else (readLiteral quote rest).map fun (value, written, after) =>
        (character :: value, character :: written, after)

/-- The longest word at the front of a text, and the text after it. -/
def spanWord (source : List Char) : List Char × List Char :=
  (source.takeWhile isWordCharacter, source.dropWhile isWordCharacter)

def spanDigits (source : List Char) : List Char × List Char :=
  (source.takeWhile Char.isDigit, source.dropWhile Char.isDigit)

/-- Digits, and a point with more digits if a digit follows the point. -/
def spanNumber (source : List Char) : List Char × List Char :=
  match spanDigits source with
  | (whole, '.' :: digit :: rest) =>
      if digit.isDigit then
        let (fraction, after) := spanDigits (digit :: rest)
        (whole ++ '.' :: fraction, after)
      else (whole, '.' :: digit :: rest)
  | split => split

/-- The lexeme at the front of a text; nothing at its end or before a literal
that is never closed. -/
def lexeme? : List Char → Option Lexeme
  | [] => none
  | first :: rest =>
      if first = '$' && rest.head?.any isWordStart then
        let (name, after) := spanWord rest
        some ⟨.variable (String.ofList name), first :: name, after⟩
      else if isWordStart first then
        let (name, after) := spanWord (first :: rest)
        some ⟨.identifier (String.ofList name), name, after⟩
      else if first.isDigit then
        let (digits, after) := spanNumber (first :: rest)
        some ⟨.number (String.ofList digits), digits, after⟩
      else if first = '\x27' || first = '"' then
        (readLiteral first rest).map fun (value, written, after) =>
          ⟨.text (String.ofList value), first :: written, after⟩
      else
        match first, rest with
        | '-', '>' :: after => some ⟨.arrow, ['-', '>'], after⟩
        | '?', '-' :: '>' :: after => some ⟨.arrow, ['?', '-', '>'], after⟩
        | ':', ':' :: after => some ⟨.doubleColon, [':', ':'], after⟩
        | symbol, after => some ⟨.ofSymbol symbol, [symbol], after⟩

/-! ## Progress -/

theorem skipGap_length_le (mode : GapMode) (line : Nat) (source : List Char) :
    (skipGap mode line source).rest.length ≤ source.length := by
  fun_induction skipGap mode line source <;> simp_all <;> omega

theorem dropWhile_length_le {α : Type} (test : α → Bool) (items : List α) :
    (items.dropWhile test).length ≤ items.length :=
  (List.dropWhile_sublist test).length_le

theorem spanDigits_length_le (source : List Char) :
    (spanDigits source).2.length ≤ source.length :=
  dropWhile_length_le _ _

/-- A number that starts with a digit takes at least that digit. -/
theorem spanNumber_length_lt {first : Char} (rest : List Char) (digit : first.isDigit = true) :
    (spanNumber (first :: rest)).2.length < (first :: rest).length := by
  have taken : (spanDigits (first :: rest)).2.length ≤ rest.length := by
    simpa [spanDigits, List.dropWhile_cons, digit] using dropWhile_length_le Char.isDigit rest
  unfold spanNumber
  split
  next whole next more split =>
    rw [split] at taken
    simp only [List.length_cons] at taken ⊢
    split
    · have tail := spanDigits_length_le (next :: more)
      simp only [List.length_cons] at tail
      show (spanDigits (next :: more)).2.length < _
      omega
    · simp only [List.length_cons]
      omega
  next =>
    simp only [List.length_cons]
    omega

theorem readLiteral_length_lt {quote : Char} {source value written after : List Char}
    (read : readLiteral quote source = some (value, written, after)) :
    after.length < source.length := by
  fun_induction readLiteral quote source generalizing value written after with
  | case1 => simp at read
  | case2 => simp at read
  | case3 escaped rest inductionHypothesis =>
      obtain ⟨⟨body, shown, tail⟩, found, same⟩ := Option.map_eq_some_iff.1 read
      simp only [Prod.mk.injEq] at same
      have shorter := inductionHypothesis found
      rw [← same.2.2]
      simp only [List.length_cons]
      omega
  | case4 rest _ _ =>
      simp only [Option.some.injEq, Prod.mk.injEq] at read
      rw [← read.2.2]
      simp
  | case5 character rest _ _ _ inductionHypothesis =>
      obtain ⟨⟨body, shown, tail⟩, found, same⟩ := Option.map_eq_some_iff.1 read
      simp only [Prod.mk.injEq] at same
      have shorter := inductionHypothesis found
      rw [← same.2.2]
      simp only [List.length_cons]
      omega

/-- A lexeme takes at least one character. -/
theorem lexeme?_length_lt {source : List Char} {lexeme : Lexeme}
    (found : lexeme? source = some lexeme) :
    lexeme.rest.length < source.length := by
  unfold lexeme? at found
  split at found
  next => simp at found
  next first rest =>
    split at found
    next =>
      simp only [Option.some.injEq] at found
      subst found
      have shorter := dropWhile_length_le isWordCharacter rest
      simp only [spanWord, List.length_cons]
      omega
    next =>
      split at found
      next start =>
        simp only [Option.some.injEq] at found
        subst found
        have shorter := dropWhile_length_le isWordCharacter rest
        simp only [spanWord, List.dropWhile_cons, isWordCharacter_of_isWordStart start,
          if_true, List.length_cons]
        omega
      next =>
        split at found
        next digit =>
          simp only [Option.some.injEq] at found
          subst found
          exact spanNumber_length_lt rest digit
        next =>
          split at found
          next =>
            obtain ⟨⟨value, written, after⟩, read, same⟩ := Option.map_eq_some_iff.1 found
            subst same
            have shorter := readLiteral_length_lt read
            simp only [List.length_cons]
            omega
          next =>
            split at found <;>
              (simp only [Option.some.injEq] at found
               subst found
               simp only [List.length_cons]
               omega)

/-! ## Sources -/

/-- The number of line feeds in a piece of text. -/
def lineFeeds (text : List Char) : Nat :=
  text.count '\n'

/-- The tokens of a text whose first line has the given number. -/
def scanFrom (line : Nat) (source : List Char) : List Token :=
  let start := skipGap .between line source
  match _found : lexeme? start.rest with
  | none => []
  | some lexeme =>
      ⟨lexeme.kind, start.line⟩ ::
        scanFrom (start.line + lineFeeds lexeme.written) lexeme.rest
termination_by source.length
decreasing_by
  exact Nat.lt_of_lt_of_le (lexeme?_length_lt _found) (skipGap_length_le .between line source)

def tokenize (source : String) : List Token :=
  scanFrom 1 source.toList

end FormRules.Token
