import FormRules.Json.Token

/-!
Contract: a JSON text as one value.

Owns: the reader of token lists, which keeps the arrays and objects that are
open on a stack and needs no bound on their depth.

Does not own: the tokens of a text.
-/

namespace FormRules.Json

/-- Members of an object as they are read; a name may be illegible. -/
abbrev Members := List (Option String × Json)

/-- The object with some members, if all names are legible. -/
def ofMembers (members : Members) : Json :=
  match members.mapM fun member => member.1.map fun name => (name, member.2) with
  | some members => .object members
  | none => .illegible

/-- The name that a token is, legible or not. -/
def Token.name? : Token → Option (Option String)
  | .string name => some (some name)
  | .illegible => some none
  | _ => none

/-- An array or object that is open, with what has been read of it, the last
first. -/
inductive Frame where
  | array (items : List Json)
  | object (members : Members) (name : Option String)

/-- What may come next. -/
inductive Expectation where
  | value
  /-- A value, or the end of an array that is still empty. -/
  | firstItem
  /-- The name of a member, or the end of an object that is still empty. -/
  | firstName
  | name (members : Members)
  | colon (members : Members) (name : Option String)
  /-- A value has been read; its frame goes on or ends. -/
  | after (value : Json)

structure Progress where
  frames : List Frame
  next : Expectation

namespace Progress

/-- A value starts. -/
def startValue (frames : List Frame) : Token → Option Progress
  | .openObject => some ⟨frames, .firstName⟩
  | .openArray => some ⟨.array [] :: frames, .firstItem⟩
  | .null => some ⟨frames, .after .null⟩
  | .bool value => some ⟨frames, .after (.bool value)⟩
  | .number literal => some ⟨frames, .after (.number literal)⟩
  | .string value => some ⟨frames, .after (.string value)⟩
  | .illegible => some ⟨frames, .after .illegible⟩
  | _ => none

/-- A value has been read, and a token follows it. -/
def afterValue (value : Json) : List Frame → Token → Option Progress
  | .array items :: frames, .comma => some ⟨.array (value :: items) :: frames, .value⟩
  | .array items :: frames, .closeArray =>
      some ⟨frames, .after (.array (value :: items).reverse)⟩
  | .object members name :: frames, .comma => some ⟨frames, .name ((name, value) :: members)⟩
  | .object members name :: frames, .closeObject =>
      some ⟨frames, .after (ofMembers ((name, value) :: members).reverse)⟩
  | _, _ => none

def step (progress : Progress) (token : Token) : Option Progress :=
  match progress.next, token with
  | .value, token => startValue progress.frames token
  | .firstItem, .closeArray => some ⟨progress.frames.tail, .after (.array [])⟩
  | .firstItem, token => startValue progress.frames token
  | .firstName, .closeObject => some ⟨progress.frames, .after (.object [])⟩
  | .firstName, token => token.name?.map fun name => ⟨progress.frames, .colon [] name⟩
  | .name members, token => token.name?.map fun name => ⟨progress.frames, .colon members name⟩
  | .colon members name, .colon => some ⟨.object members name :: progress.frames, .value⟩
  | .after value, token => afterValue value progress.frames token
  | _, _ => none

/-- The value read, if nothing is open any more. -/
def result? : Progress → Option Json
  | ⟨[], .after value⟩ => some value
  | _ => none

end Progress

/-- The value that a whole token list stands for. -/
def ofTokens? (tokens : List Token) : Option Json :=
  (tokens.foldlM Progress.step ⟨[], .value⟩).bind Progress.result?

/-- The value of a text that is one value with blanks around its tokens. -/
def parse? (text : String) : Option Json :=
  (Token.scan? text.toList).bind ofTokens?

end FormRules.Json
