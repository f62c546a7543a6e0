/-!
Contract: log events, and the line each is shown as.

Owns:
- levels, from errors to traces, and which a threshold lets through;
- the parts of the program that events come from, with the names that filters
  know them by;
- events with their fields, and their line without time and colour.

Does not own: what gives rise to an event.
-/

namespace FormRules

inductive Level where
  | error
  | warn
  | info
  | debug
  | trace
deriving DecidableEq, Repr

namespace Level

/-- How much a threshold at this level lets through. -/
def verbosity : Level → Nat
  | .error => 1
  | .warn => 2
  | .info => 3
  | .debug => 4
  | .trace => 5

/-- The name in five columns, aligned to the right. -/
def label : Level → String
  | .error => "ERROR"
  | .warn => " WARN"
  | .info => " INFO"
  | .debug => "DEBUG"
  | .trace => "TRACE"

/-- A threshold lets through events of its own level and graver ones. -/
def admits (threshold level : Level) : Bool :=
  level.verbosity ≤ threshold.verbosity

end Level

/-- A part of the program that reports what it does. -/
inductive Part where
  | settings
  | migrations
  | rules
  | generation
deriving DecidableEq, Repr

/-- The name of a part, whose beginnings name larger parts. -/
def Part.name : Part → String
  | .settings => "rulegen_cli::config"
  | .migrations => "rulegen_ir::parser"
  | .rules => "rulegen_codegen::rules"
  | .generation => "rulegen_codegen::generator"

structure Event where
  part : Part
  level : Level
  message : String
  /-- Names and values, in the order they are shown in. -/
  fields : List (String × String) := []
deriving DecidableEq, Repr

namespace Event

/-- The message counts as a field. -/
def hasField (event : Event) (name : String) : Bool :=
  name == "message" || event.fields.any fun field => field.1 == name

/-- Characters that a terminal takes for orders are shown by their codes. -/
def sanitize (character : Char) : List Char :=
  if ['\x07', '\x08', '\x0c', '\x1b', '\x7f'].contains character then
    ['\\', 'x', Nat.digitChar (character.toNat / 16), Nat.digitChar (character.toNat % 16)]
  else if 0x80 ≤ character.toNat && character.toNat ≤ 0x9f then
    '\\' :: 'u' :: '\x7b' :: Nat.toDigits 16 character.toNat ++ ['\x7d']
  else [character]

/-- The level, the message freed of orders to a terminal, and the fields as
they are. -/
def line (event : Event) : String :=
  event.level.label ++ " " ++ String.ofList (event.message.toList.flatMap sanitize) ++
    String.join (event.fields.map fun field => " " ++ field.1 ++ "=" ++ field.2)

/-- The lines of the events that a threshold lets through. -/
def lines (threshold : Level) (events : List Event) : List String :=
  (events.filter fun event => threshold.admits event.level).map line

end Event

end FormRules
