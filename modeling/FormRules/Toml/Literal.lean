import FormRules.Text.Hexadecimal

/-!
Contract: the text literals of a TOML document.

Owns: the four forms, in double or single quotes and on one line or several,
with the escapes that each knows.

Does not own: where a literal may stand.
-/

namespace FormRules.Toml

open FormRules.Text

/-- Space and tab. -/
def isBlank (character : Char) : Bool :=
  character == ' ' || character == '\t'

/-- A character that may stand in a comment or a literal: no control
character but the tab. -/
def isVisible (character : Char) : Bool :=
  character == '\t' || (0x20 ≤ character.toNat && character.toNat != 0x7F)

/-! ## Pieces of literals -/

/-- A piece of a literal with the characters it stands for. -/
inductive Piece where
  | more (value rest : List Char)
  /-- The literal ends after these characters. -/
  | last (value rest : List Char)

/-- The two-character escapes: the character after the backslash, and the
character that is meant. -/
def shortEscapes : List (Char × Char) :=
  [('b', '\x08'), ('t', '\t'), ('n', '\n'), ('f', '\x0c'), ('r', '\r'), ('"', '"'), ('\\', '\\')]

/-- A code of exactly so many digits. -/
def readCode (count : Nat) (source : List Char) : Option (Char × List Char) :=
  if source.length < count then none
  else ((hexValue? (source.take count)).bind characterOf?).map fun character =>
    (character, source.drop count)

/-- The character that an escape stands for, after its backslash. -/
def readEscape : List Char → Option (Char × List Char)
  | [] => none
  | 'u' :: rest => readCode 4 rest
  | 'U' :: rest => readCode 8 rest
  | escaped :: rest => (shortEscapes.lookup escaped).map fun character => (character, rest)

/-- Pass blanks and line ends; a carriage return without its line feed is
neither. -/
def skipLines : List Char → List Char
  | [] => []
  | '\n' :: rest => skipLines rest
  | '\r' :: '\n' :: rest => skipLines rest
  | character :: rest => if isBlank character then skipLines rest else character :: rest

/-- The text after a line that ends in a backslash, from the next word on. -/
def continuation? (source : List Char) : Option (List Char) :=
  match source.dropWhile isBlank with
  | '\n' :: rest | '\r' :: '\n' :: rest => some (skipLines rest)
  | _ => none

/-- The quotes of a closing run that belong to the value: at most two, after
the three that close. -/
def closing (quote : Char) (rest : List Char) : Piece :=
  let extra := (rest.take 2).takeWhile (· == quote)
  .last extra (rest.drop extra.length)

def basicPiece : List Char → Option Piece
  | [] => none
  | '"' :: rest => some (.last [] rest)
  | '\\' :: rest => (readEscape rest).map fun (character, after) => .more [character] after
  | character :: rest => if isVisible character then some (.more [character] rest) else none

def literalPiece : List Char → Option Piece
  | [] => none
  | '\x27' :: rest => some (.last [] rest)
  | character :: rest => if isVisible character then some (.more [character] rest) else none

/-- A line end, read as a line feed, or a character of its own. -/
def linePiece : List Char → Option Piece
  | [] => none
  | '\n' :: rest | '\r' :: '\n' :: rest => some (.more ['\n'] rest)
  | character :: rest => if isVisible character then some (.more [character] rest) else none

def longBasicPiece : List Char → Option Piece
  | '"' :: '"' :: '"' :: rest => some (closing '"' rest)
  | '\\' :: rest =>
      match readEscape rest with
      | some (character, after) => some (.more [character] after)
      | none => (continuation? rest).map (.more [])
  | source => linePiece source

def longLiteralPiece : List Char → Option Piece
  | '\x27' :: '\x27' :: '\x27' :: rest => some (closing '\x27' rest)
  | source => linePiece source

/-- Read pieces up to the last one, at most as many as the fuel says. -/
def readPieces (piece : List Char → Option Piece) :
    Nat → List Char → Option (List Char × List Char)
  | 0, _ => none
  | fuel + 1, source =>
      match piece source with
      | none => none
      | some (.last value rest) => some (value, rest)
      | some (.more value rest) =>
          (readPieces piece fuel rest).map fun (tail, after) => (value ++ tail, after)

/-- A literal of the given form; each piece takes at least one character. -/
def readForm (piece : List Char → Option Piece) (source : List Char) :
    Option (String × List Char) :=
  (readPieces piece source.length source).map fun (value, rest) => (String.ofList value, rest)

/-- A line end right after the opening quotes is no part of the value. -/
def withoutFirstLineEnd : List Char → List Char
  | '\n' :: rest | '\r' :: '\n' :: rest => rest
  | source => source

/-- A literal on one line. -/
def readShortLiteral : List Char → Option (String × List Char)
  | '"' :: rest => readForm basicPiece rest
  | '\x27' :: rest => readForm literalPiece rest
  | _ => none

/-- A literal in any form. -/
def readLiteral : List Char → Option (String × List Char)
  | '"' :: '"' :: '"' :: rest => readForm longBasicPiece (withoutFirstLineEnd rest)
  | '\x27' :: '\x27' :: '\x27' :: rest => readForm longLiteralPiece (withoutFirstLineEnd rest)
  | source => readShortLiteral source

end FormRules.Toml
