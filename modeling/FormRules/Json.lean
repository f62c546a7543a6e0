/-!
Contract: values of a JSON document.

Owns: the six kinds of value, and the value that is only passed over.

Does not own: how a value is read or written.

A number keeps the digits it is written with, and an object keeps its members
in order, repeated names included: which of them count is for the reader of
the value to say.
-/

namespace FormRules

inductive Json where
  | null
  | bool (value : Bool)
  | number (literal : String)
  | string (value : String)
  | array (items : List Json)
  | object (members : List (String × Json))
  /-- A string that stands for no text, because it has one half of a surrogate
  pair without the other, or an object with such a name. -/
  | illegible
deriving Repr, Inhabited

namespace Json

def isNull : Json → Bool
  | .null => true
  | _ => false

def bool? : Json → Option Bool
  | .bool value => some value
  | _ => none

def string? : Json → Option String
  | .string value => some value
  | _ => none

def array? : Json → Option (List Json)
  | .array items => some items
  | _ => none

end Json

end FormRules
