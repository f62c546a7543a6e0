import FormRules.Toml.Moment
import FormRules.Toml.Table

/-!
Contract: the keys and values of a TOML document.

Owns:
- keys with dots, and the limit on their length;
- values of every kind, and the limit on how deep they nest.

Does not own: the lines of a document.
-/

namespace FormRules.Toml

/-- Keys have fewer names than this, and values fewer levels. -/
def depthLimit : Nat := 80

/-! ## Keys -/

def isKeyCharacter (character : Char) : Bool :=
  character.isAlphanum || character == '_' || character == '-'

/-- A bare or quoted name. -/
def readName : List Char → Option (String × List Char)
  | '"' :: rest => readShortLiteral ('"' :: rest)
  | '\x27' :: rest => readShortLiteral ('\x27' :: rest)
  | source =>
      let name := source.takeWhile isKeyCharacter
      if name.isEmpty then none else some (String.ofList name, source.dropWhile isKeyCharacter)

/-- Names between dots, with blanks around each; at most as many as the fuel
says. -/
def readNames : Nat → List Char → Option (List String × List Char)
  | 0, _ => none
  | fuel + 1, source => do
      let (name, rest) ← readName (source.dropWhile isBlank)
      match rest.dropWhile isBlank with
      | '.' :: rest => do
          let (names, after) ← readNames fuel rest
          return (name :: names, after)
      | rest => return ([name], rest)

/-- A key that is not too long, and the blanks after it. -/
def readKey (source : List Char) : Option (List String × List Char) :=
  readNames (depthLimit - 1) source

/-! ## Gaps -/

/-- Pass blanks, line ends and comments, up to any other character. -/
def skipGap (inComment : Bool) : List Char → List Char
  | [] => []
  | '\n' :: rest => skipGap false rest
  | '\r' :: '\n' :: rest => skipGap false rest
  | character :: rest =>
      if inComment then
        if isVisible character then skipGap true rest else character :: rest
      else if character = '#' then skipGap true rest
      else if isBlank character then skipGap false rest
      else character :: rest

/-! ## Values -/

/-- The items of an array after its opening bracket or a comma; at most as
many as the fuel says. -/
def readItems (read : List Char → Option (Json × List Char)) :
    Nat → List Char → Option (List Json × List Char)
  | 0, _ => none
  | fuel + 1, source =>
      match skipGap false source with
      | ']' :: rest => some ([], rest)
      | start => do
          let (item, rest) ← read start
          match skipGap false rest with
          | ',' :: rest => do
              let (items, after) ← readItems read fuel rest
              return (item :: items, after)
          | ']' :: rest => return ([item], rest)
          | _ => none

/-- A key, an equals sign and a value. -/
def readAssignment (read : List Char → Option (Json × List Char)) (source : List Char) :
    Option ((List String × Json) × List Char) := do
  let (key, rest) ← readKey source
  match rest with
  | '=' :: rest => do
      let (value, after) ← read (rest.dropWhile isBlank)
      return ((key, value), after)
  | _ => none

/-- The assignments of an inline table, from the first one to the closing
brace, added to those before. -/
def readMembers (read : List Char → Option (Json × List Char)) :
    Nat → Entries → List Char → Option (Entries × List Char)
  | 0, _, _ => none
  | fuel + 1, entries, source => do
      let ((key, value), rest) ← readAssignment read source
      let entries ← assign key value entries
      match rest.dropWhile isBlank with
      | ',' :: rest => readMembers read fuel entries rest
      | '\x7d' :: rest => return (entries, rest)
      | _ => none

/-- An inline table after its opening brace. -/
def readInlineTable (read : List Char → Option (Json × List Char)) (source : List Char) :
    Option (Json × List Char) :=
  match source.dropWhile isBlank with
  | '\x7d' :: rest => some (.object [], rest)
  | _ => (readMembers read source.length [] source).map fun (entries, rest) =>
      (.object (entriesJson entries), rest)

/-- A moment is an object with one member, whose name no program asks for. -/
def ofMoment (text : List Char) : Json :=
  .object [("moment of time", .string (String.ofList text))]

/-- A value without parts. -/
def readScalar : List Char → Option (Json × List Char)
  | 't' :: 'r' :: 'u' :: 'e' :: rest => some (.bool true, rest)
  | 'f' :: 'a' :: 'l' :: 's' :: 'e' :: rest => some (.bool false, rest)
  | '"' :: rest => (readLiteral ('"' :: rest)).map fun (text, after) => (.string text, after)
  | '\x27' :: rest => (readLiteral ('\x27' :: rest)).map fun (text, after) => (.string text, after)
  | source =>
      match readMoment source with
      | some rest => some (ofMoment (source.take (source.length - rest.length)), rest)
      | none => (readNumber source).map fun (literal, rest) => (.number literal, rest)

/-- A value that nests at most so many levels. -/
def readValue : Nat → List Char → Option (Json × List Char)
  | 0, source => readScalar source
  | levels + 1, '[' :: rest =>
      (readItems (readValue levels) (rest.length + 1) rest).map fun (items, after) =>
        (.array items, after)
  | levels + 1, '\x7b' :: rest => readInlineTable (readValue levels) rest
  | _ + 1, source => readScalar source

end FormRules.Toml
