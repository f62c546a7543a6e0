import FormRules.Json.Token

/-!
Contract: the two written forms of a value.

Owns:
- the compact form, without any blank;
- the form in lines, with two spaces for each level.

Does not own: which values a document is made of.
-/

namespace FormRules.Json

/-! ## Compact form -/

mutual

/-- The tokens of a value. -/
def tokens : Json → List Token
  | .null => [.null]
  | .bool value => [.bool value]
  | .number literal => [.number literal]
  | .string value => [.string value]
  | .illegible => [.illegible]
  | .array [] => [.openArray, .closeArray]
  | .array (item :: items) => .openArray :: (tokens item ++ itemTokens items)
  | .object [] => [.openObject, .closeObject]
  | .object ((name, value) :: members) =>
      .openObject :: .string name :: .colon :: (tokens value ++ memberTokens members)

/-- The further items of an array, with its end. -/
def itemTokens : List Json → List Token
  | [] => [.closeArray]
  | item :: items => .comma :: (tokens item ++ itemTokens items)

/-- The further members of an object, with its end. -/
def memberTokens : List (String × Json) → List Token
  | [] => [.closeObject]
  | (name, value) :: members =>
      .comma :: .string name :: .colon :: (tokens value ++ memberTokens members)

end

def compact (value : Json) : String :=
  String.ofList (value.tokens.flatMap Token.written)

/-! ## Form in lines -/

/-- A new line at a level. -/
def lineAt (level : Nat) : List Char :=
  '\n' :: List.replicate (2 * level) ' '

mutual

/-- The text of a value that starts on a line of the given level. -/
def prettyAt (level : Nat) : Json → List Char
  | .array [] => ['[', ']']
  | .array (item :: items) =>
      '[' :: (lineAt (level + 1) ++ prettyAt (level + 1) item ++ prettyItems level items)
  | .object [] => ['\x7b', '\x7d']
  | .object ((name, value) :: members) =>
      '\x7b' :: (lineAt (level + 1) ++ (Token.string name).written ++ [':', ' '] ++
        prettyAt (level + 1) value ++ prettyMembers level members)
  | .null => Token.null.written
  | .bool value => (Token.bool value).written
  | .number literal => (Token.number literal).written
  | .string value => (Token.string value).written
  | .illegible => Token.illegible.written

/-- The further items of an array on the given level, with its end. -/
def prettyItems (level : Nat) : List Json → List Char
  | [] => lineAt level ++ [']']
  | item :: items =>
      ',' :: (lineAt (level + 1) ++ prettyAt (level + 1) item ++ prettyItems level items)

/-- The further members of an object on the given level, with its end. -/
def prettyMembers (level : Nat) : List (String × Json) → List Char
  | [] => lineAt level ++ ['\x7d']
  | (name, value) :: members =>
      ',' :: (lineAt (level + 1) ++ (Token.string name).written ++ [':', ' '] ++
        prettyAt (level + 1) value ++ prettyMembers level members)

end

def pretty (value : Json) : String :=
  String.ofList (prettyAt 0 value)

end FormRules.Json
