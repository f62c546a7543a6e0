/-!
Contract: the tokens of a migration source.

Owns: the kinds of token and the line each token starts on.

Does not own: how a source is cut into tokens.

Only the shapes that a table definition is recognised by are kept apart;
every other character is a token of its own.
-/

namespace FormRules

inductive Token.Kind where
  /-- A dollar sign and a word; the name is kept without the sign. -/
  | variable (name : String)
  | identifier (name : String)
  /-- A quoted literal, with its escapes resolved. -/
  | text (value : String)
  /-- A numeral, as written. -/
  | number (digits : String)
  | arrow
  | doubleColon
  | openParen
  | closeParen
  | openBracket
  | closeBracket
  | comma
  | semicolon
  | other (character : Char)
deriving DecidableEq, Repr

structure Token where
  kind : Token.Kind
  /-- The line the token starts on, counted from one. -/
  line : Nat
deriving DecidableEq, Repr

namespace Token.Kind

/-- An opening parenthesis or square bracket. -/
def opens : Token.Kind → Bool
  | .openParen | .openBracket => true
  | _ => false

/-- A closing parenthesis or square bracket. -/
def closes : Token.Kind → Bool
  | .closeParen | .closeBracket => true
  | _ => false

/-- The kind of a character that is a token by itself. -/
def ofSymbol : Char → Token.Kind
  | '(' => .openParen
  | ')' => .closeParen
  | '[' => .openBracket
  | ']' => .closeBracket
  | ',' => .comma
  | ';' => .semicolon
  | character => .other character

end Token.Kind

end FormRules
