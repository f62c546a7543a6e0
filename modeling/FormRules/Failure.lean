import FormRules.Error
import FormRules.Text.Decimal
import FormRules.Text.Split

/-!
Contract: why a command has failed, with the causes behind it.

Owns:
- the message and its causes, the nearest first;
- the text that is shown for them.

Does not own: the messages themselves.
-/

namespace FormRules

structure Failure where
  message : String
  causes : List String := []
deriving DecidableEq, Repr

/-- What the reader of a document found wrong is a cause of its own. -/
def Error.causes : Error → List String
  | .json detail | .toml detail => [detail]
  | _ => []

namespace Failure

def ofError (error : Error) : Failure where
  message := error.message
  causes := error.causes

/-- The failure as the cause of a larger one. -/
def within (failure : Failure) (context : String) : Failure where
  message := context
  causes := failure.message :: failure.causes

/-- All messages, from the outermost on. -/
def messages (failure : Failure) : List String :=
  failure.message :: failure.causes

/-- A text with each further line indented. -/
def indentLines (indent text : String) : String :=
  ("\n" ++ indent).intercalate (Text.splitAt '\n' text)

/-- A cause under its number. -/
def numberedCause (number : Nat) (cause : String) : String :=
  let digits := Text.decimal number
  "\n" ++ String.ofList (List.replicate (5 - digits.length) ' ') ++ digits ++ ": " ++
    indentLines "       " cause

/-- The causes on lines of their own, numbered if there are several. -/
def causesText : List String → String
  | [] => ""
  | [cause] => "\n\nCaused by:\n    " ++ indentLines "    " cause
  | causes =>
      "\n\nCaused by:" ++
        String.join (causes.zipIdx.map fun (cause, number) => numberedCause number cause)

def text (failure : Failure) : String :=
  "Error: " ++ failure.message ++ causesText failure.causes ++ "\n"

end Failure

end FormRules
