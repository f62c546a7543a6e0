import FormRules.Json
import FormRules.Text.Hexadecimal

/-!
Contract: the tokens of a JSON text, and how each is written.

Owns:
- blanks, literals of strings and numbers, and the other tokens;
- the written form of a token, which reads back as that token;
- `Token.scan?`, nothing for a text with a character out of place.

Does not own: which sequences of tokens are a value.
-/

namespace FormRules.Json

inductive Token where
  | openObject
  | closeObject
  | openArray
  | closeArray
  | comma
  | colon
  | null
  | bool (value : Bool)
  | number (literal : String)
  | string (value : String)
  /-- A string literal that stands for no text, because it has one half of a
  surrogate pair without the other. -/
  | illegible
deriving DecidableEq, Repr

namespace Token

open FormRules.Text

/-- Space, tab, line feed and carriage return, and no other character. -/
def isBlank (character : Char) : Bool :=
  character == ' ' || character == '\t' || character == '\n' || character == '\r'

/-! ## Strings -/

/-- The two-character escapes: the character after the backslash, and the
character that is meant. -/
def shortEscapes : List (Char × Char) :=
  [('"', '"'), ('\\', '\\'), ('/', '/'), ('b', '\x08'), ('f', '\x0c'), ('n', '\n'), ('r', '\r'),
   ('t', '\t')]

/-- The character that two surrogates stand for, a high one and a low one. -/
def ofSurrogates? (high low : Nat) : Option Char :=
  if 0xD800 ≤ high && high ≤ 0xDBFF && 0xDC00 ≤ low && low ≤ 0xDFFF then
    some (Char.ofNat (0x10000 + (high - 0xD800) * 0x400 + (low - 0xDC00)))
  else none

/-- A piece of a string literal: a character, or the code of an escape, which
may be that of half a character. -/
inductive Piece where
  | character (value : Char)
  | code (unit : Nat)

/-- The pieces of a string literal after its opening quote, and the text after
its closing quote. -/
def readPieces : List Char → Option (List Piece × List Char)
  | [] => none
  | '"' :: rest => some ([], rest)
  | '\\' :: 'u' :: a :: b :: c :: d :: rest =>
      (hexValue? [a, b, c, d]).bind fun unit =>
        (readPieces rest).map fun (pieces, after) => (.code unit :: pieces, after)
  | '\\' :: escaped :: rest =>
      (shortEscapes.lookup escaped).bind fun character =>
        (readPieces rest).map fun (pieces, after) => (.character character :: pieces, after)
  | character :: rest =>
      if character.toNat < 0x20 then none
      else (readPieces rest).map fun (pieces, after) => (.character character :: pieces, after)

/-- The text of some pieces; a surrogate has to be one of a pair. -/
def joinPieces? : List Piece → Option (List Char)
  | [] => some []
  | .character character :: rest => (joinPieces? rest).map (character :: ·)
  | .code high :: .code low :: rest =>
      match characterOf? high with
      | some character => (joinPieces? (.code low :: rest)).map (character :: ·)
      | none =>
          (ofSurrogates? high low).bind fun character => (joinPieces? rest).map (character :: ·)
  | .code unit :: rest =>
      (characterOf? unit).bind fun character => (joinPieces? rest).map (character :: ·)

/-- The token of a string literal. -/
def ofPieces (pieces : List Piece) : Token :=
  match joinPieces? pieces with
  | some value => .string (String.ofList value)
  | none => .illegible

/-- One character of a string literal: raw, or as its short escape, or by its
code if it is a control character without one. -/
def escape (character : Char) : List Char :=
  if character = '"' then ['\\', '"']
  else if character = '\\' then ['\\', '\\']
  else if character = '\x08' then ['\\', 'b']
  else if character = '\x0c' then ['\\', 'f']
  else if character = '\n' then ['\\', 'n']
  else if character = '\r' then ['\\', 'r']
  else if character = '\t' then ['\\', 't']
  else if character.toNat < 0x20 then
    ['\\', 'u', '0', '0', Nat.digitChar (character.toNat / 16),
      Nat.digitChar (character.toNat % 16)]
  else [character]

/-! ## Numbers -/

/-- A non-empty run of digits. -/
def readDigits (source : List Char) : Option (List Char × List Char) :=
  let digits := source.takeWhile Char.isDigit
  if digits.isEmpty then none else some (digits, source.dropWhile Char.isDigit)

/-- A whole number: a zero alone, or digits that do not start with one. -/
def readWhole : List Char → Option (List Char × List Char)
  | '0' :: rest => some (['0'], rest)
  | source => readDigits source

def readFraction : List Char → Option (List Char × List Char)
  | '.' :: rest => (readDigits rest).map fun (digits, after) => ('.' :: digits, after)
  | source => some ([], source)

/-- The sign of an exponent, which may be missing. -/
def readSign : List Char → List Char × List Char
  | '+' :: rest => (['+'], rest)
  | '-' :: rest => (['-'], rest)
  | source => ([], source)

def readExponent : List Char → Option (List Char × List Char)
  | first :: rest =>
      if first = 'e' || first = 'E' then
        let (sign, unsigned) := readSign rest
        (readDigits unsigned).map fun (digits, after) => (first :: sign ++ digits, after)
      else some ([], first :: rest)
  | [] => some ([], [])

/-- A number without its minus sign. -/
def readUnsigned (source : List Char) : Option (List Char × List Char) := do
  let (whole, afterWhole) ← readWhole source
  let (fraction, afterFraction) ← readFraction afterWhole
  let (exponent, rest) ← readExponent afterFraction
  return (whole ++ fraction ++ exponent, rest)

def readNumber : List Char → Option (List Char × List Char)
  | '-' :: rest => (readUnsigned rest).map fun (digits, after) => ('-' :: digits, after)
  | source => readUnsigned source

/-! ## Tokens -/

/-- The token at the very front of a text, and the text after it. -/
def read? : List Char → Option (Token × List Char)
  | '\x7b' :: rest => some (.openObject, rest)
  | '\x7d' :: rest => some (.closeObject, rest)
  | '[' :: rest => some (.openArray, rest)
  | ']' :: rest => some (.closeArray, rest)
  | ',' :: rest => some (.comma, rest)
  | ':' :: rest => some (.colon, rest)
  | '"' :: rest => (readPieces rest).map fun (pieces, after) => (ofPieces pieces, after)
  | 'n' :: 'u' :: 'l' :: 'l' :: rest => some (.null, rest)
  | 't' :: 'r' :: 'u' :: 'e' :: rest => some (.bool true, rest)
  | 'f' :: 'a' :: 'l' :: 's' :: 'e' :: rest => some (.bool false, rest)
  | source => (readNumber source).map fun (digits, after) =>
      (.number (String.ofList digits), after)

/-- Read tokens up to the end, at most as many as the fuel says. -/
def scanWithin : Nat → List Char → Option (List Token)
  | 0, source => if source.all isBlank then some [] else none
  | fuel + 1, source =>
      match source.dropWhile isBlank with
      | [] => some []
      | start =>
          match read? start with
          | some (token, rest) => (scanWithin fuel rest).map (token :: ·)
          | none => none

/-- The tokens of a text.  No text has more tokens than characters. -/
def scan? (source : List Char) : Option (List Token) :=
  scanWithin source.length source

/-- How a token is written. -/
def written : Token → List Char
  | .openObject => ['\x7b']
  | .closeObject => ['\x7d']
  | .openArray => ['[']
  | .closeArray => [']']
  | .comma => [',']
  | .colon => [':']
  | .null => "null".toList
  | .bool true => "true".toList
  | .bool false => "false".toList
  | .number literal => literal.toList
  | .string value => '"' :: value.toList.flatMap escape ++ ['"']
  | .illegible => "\"\\ud800\"".toList

end Token

end FormRules.Json
