import FormRules.Request

/-!
Contract: the text of a form request class.

Owns:
- single-quoted literals;
- the layout of lists on indented lines;
- the array of rules, and the class around it.

Does not own: the names and rules that the text is filled with.
-/

namespace FormRules

/-- A text in single quotes, with a backslash before each quote and each
backslash. -/
def singleQuoted (text : String) : String :=
  String.ofList ('\x27' :: (text.toList.flatMap fun character =>
    if character = '\\' || character = '\x27' then ['\\', character] else [character]) ++ ['\x27'])

/-- How lines are indented and lists closed. -/
structure Layout where
  level : Nat := 0
  useSpaces : Bool := true
  spaces : Nat := 4
  trailingCommas : Bool := true
deriving DecidableEq, Repr

namespace Layout

def deeper (layout : Layout) : Layout :=
  { layout with level := layout.level + 1 }

/-- What a line starts with. -/
def indent (layout : Layout) : String :=
  String.ofList
    (if layout.useSpaces then List.replicate (layout.level * layout.spaces) ' '
    else List.replicate layout.level '\t')

end Layout

namespace RuleSet

/-- The line of one entry, without its indent. -/
def entryText (entry : String × List Rule) : String :=
  singleQuoted entry.1 ++ " => [" ++
    ", ".intercalate (entry.2.map fun rule => singleQuoted rule.text) ++ "]"

/-- The rule set as an array, an entry a line. -/
def arrayText (set : RuleSet) (layout : Layout) : String :=
  if set.entries.isEmpty then "[]"
  else
    "[\n" ++
    ",\n".intercalate (set.entries.map fun entry => layout.deeper.indent ++ entryText entry) ++
    (if layout.trailingCommas then "," else "") ++ "\n" ++ layout.indent ++ "]"

end RuleSet

namespace Request

/-- The class that every form request extends. -/
def baseClass : String := "Illuminate\\Foundation\\Http\\FormRequest"

/-- A method of the class that returns one expression. -/
def methodText (name result : String) : String :=
  let method : Layout := { level := 1 }
  method.indent ++ "public function " ++ name ++ "()\n" ++
  method.indent ++ "\x7b\n" ++
  method.deeper.indent ++ "return " ++ result ++ ";\n" ++
  method.indent ++ "\x7d\n"

/-- The whole file of the class. -/
def classText (request : Request) : String :=
  "<?php\n\n" ++
  "namespace " ++ request.namespaceName ++ ";\n\n" ++
  "use " ++ baseClass ++ ";\n\n" ++
  "class " ++ request.requestName ++ " extends FormRequest\n\x7b\n" ++
  methodText "authorize" "true" ++ "\n" ++
  methodText "rules" (request.rules.arrayText { level := 2 }) ++
  "\x7d\n"

end Request

end FormRules
