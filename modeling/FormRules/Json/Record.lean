import FormRules.Json
import FormRules.Text.Decimal

/-!
Contract: records of named fields, read from a value.

Owns:
- the two forms of a record, an object or an array of its fields in order;
- fields with and without a default;
- 32-bit numbers, and words that are written as a text or as the only member of an object.

Does not own: the fields of any particular record.
-/

namespace FormRules.Json

/-- What formats with the same values settle differently. -/
structure Dialect where
  /-- A record written as an array may have more elements than fields. -/
  extraElements : Bool
  /-- The value that stands for nothing. -/
  isUnit : Json → Bool

/-- The dialect of JSON documents. -/
def strict : Dialect where
  extraElements := false
  isUnit := Json.isNull

/-- The fields of a record that a value gives.  Unknown members are passed
over; a known one may not be repeated. -/
def fields? (dialect : Dialect) (names : List String) : Json → Option (List (String × Json))
  | .object members =>
      let known := members.filter fun member => names.contains member.1
      if (known.map Prod.fst).Nodup then some known else none
  | .array items =>
      if items.length ≤ names.length || dialect.extraElements then some (names.zip items)
      else none
  | _ => none

/-- A field that has to be given. -/
def required {α : Type} (fields : List (String × Json)) (name : String)
    (read : Json → Option α) : Option α :=
  (fields.lookup name).bind read

/-- A field with a default. -/
def withDefault {α : Type} (fields : List (String × Json)) (name : String) (default : α)
    (read : Json → Option α) : Option α :=
  match fields.lookup name with
  | some value => read value
  | none => some default

/-- A value that may be null. -/
def nullable {α : Type} (read : Json → Option α) : Json → Option (Option α)
  | .null => some none
  | value => (read value).map some

/-- A number in plain digits that fits in 32 bits. -/
def word32? : Json → Option UInt32
  | .number literal => (Text.naturalOf? literal.toList).bind Text.word32?
  | _ => none

/-- One of some words: a text, or an object with that one member and no
payload. -/
def word? {α : Type} (dialect : Dialect) (words : List (String × α)) : Json → Option α
  | .string word => words.lookup word
  | .object [(word, payload)] => if dialect.isUnit payload then words.lookup word else none
  | _ => none

/-- Every item of an array. -/
def listOf {α : Type} (read : Json → Option α) (value : Json) : Option (List α) :=
  value.array?.bind fun items => items.mapM read

end FormRules.Json
