import FormRules.Text.Blank
import FormRules.Text.Hexadecimal

/-!
Contract: the smallest parts of a search pattern.

Owns:
- the options that flags in a pattern set;
- escapes, and what each stands for;
- which parts the options admit.

Does not own: sets in brackets, groups and repetition.

Patterns are read without tables of Unicode.  So in the wide reading, by
characters, there are no kinds of characters, no word boundaries and no letters
without case; and in the narrow one, by bytes, there is nothing that could match
a part of a character.
-/

namespace FormRules.Pattern

open FormRules.Text

/-- How what follows is read. -/
structure Options where
  /-- Letters stand for both cases. -/
  caseless : Bool := false
  /-- By characters, not by bytes. -/
  wide : Bool := true
  /-- Blanks and comments mean nothing. -/
  spaced : Bool := false
deriving DecidableEq, Repr

/-- Pass blanks and comments, which end with their line. -/
def skipBlanks (inComment : Bool) : List Char → List Char
  | [] => []
  | character :: rest =>
      if inComment then skipBlanks (character != '\n') rest
      else if character = '#' then skipBlanks true rest
      else if isBlank character then skipBlanks false rest
      else character :: rest

/-- Pass what means nothing. -/
def Options.skip (options : Options) (text : List Char) : List Char :=
  if options.spaced then skipBlanks false text else text

inductive Piece where
  | literal (character : Char)
  /-- A code of two digits that is not ASCII. -/
  | byte (character : Char)
  /-- Any character but the line feed. -/
  | any
  /-- The start or the end of the text or of a line. -/
  | edge
  | wordBoundary
  /-- A digit, a blank or a word character, or any other character if negated. -/
  | kind (negated : Bool)
deriving DecidableEq, Repr

/-- The character that a piece is, as an end of a range in a set. -/
def Piece.character? : Piece → Option Char
  | .literal character | .byte character => some character
  | _ => none

/-- Letters have both cases only where no table is needed for them. -/
def Options.hasCases (options : Options) : Bool :=
  !(options.caseless && options.wide)

/-- The piece can stand in a pattern. -/
def Options.admits (options : Options) : Piece → Bool
  | .literal _ => options.hasCases
  | .byte _ => options.wide && options.hasCases
  | .any => options.wide
  | .edge => true
  | .wordBoundary => !options.wide
  | .kind negated => !options.wide && !negated

/-- The piece can be a member of a set. -/
def Options.admitsInSet (options : Options) : Piece → Bool
  | .literal character => options.wide || character.toNat < 0x80
  | .byte _ => options.wide
  | .kind negated => options.admits (.kind negated)
  | _ => false

/-- So many digits of a code; what means nothing may stand before each. -/
def readDigits (options : Options) : Nat → List Char → Option (List Char × List Char)
  | 0, text => some ([], text)
  | count + 1, text =>
      match options.skip text with
      | [] => none
      | digit :: rest => (readDigits options count rest).map fun (digits, after) =>
          (digit :: digits, after)

/-- A character by its code of so many digits. -/
def readCode (options : Options) (count : Nat) (text : List Char) : Option (Char × List Char) := do
  let (digits, after) ← readDigits options count text
  let character ← (hexValue? digits).bind characterOf?
  some (character, after)

/-- The escapes for single control characters. -/
def controlEscapes : List Char := ['a', 'f', 't', 'n', 'r', 'v']

/-- A sign that means itself after a backslash. -/
def isSign (character : Char) : Bool :=
  character.toNat < 0x80 && !character.isAlphanum && character != '<' && character != '>'

/-- The piece after a backslash.  Letters and digits without a meaning are
refused, as are properties of characters. -/
def readEscape (options : Options) : List Char → Option (Piece × List Char)
  | [] => none
  | 'x' :: rest => (readCode options 2 rest).map fun (character, after) =>
      (if character.toNat < 0x80 then .literal character else .byte character, after)
  | 'u' :: rest => (readCode options 4 rest).map fun (code, after) => (.literal code, after)
  | 'U' :: rest => (readCode options 8 rest).map fun (code, after) => (.literal code, after)
  | escaped :: rest =>
      if ['d', 's', 'w'].contains escaped then some (.kind false, rest)
      else if ['D', 'S', 'W'].contains escaped then some (.kind true, rest)
      else if ['b', 'B', '<', '>'].contains escaped then some (.wordBoundary, rest)
      else if ['A', 'z'].contains escaped then some (.edge, rest)
      else if controlEscapes.contains escaped || isSign escaped then
        some (.literal escaped, rest)
      else none

/-- The piece at the front of a text, outside of sets. -/
def readPiece (options : Options) : List Char → Option (Piece × List Char)
  | [] => none
  | '\\' :: rest => readEscape options rest
  | '.' :: rest => some (.any, rest)
  | '^' :: rest => some (.edge, rest)
  | '$' :: rest => some (.edge, rest)
  | character :: rest => some (.literal character, rest)

end FormRules.Pattern
