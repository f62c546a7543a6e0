import FormRules.Text.Numeric

/-!
Contract: which names can stand verbatim in source code.

Owns: `isIdentifier`.

Does not own: the scanner's rule for words, which it agrees with.
-/

namespace FormRules

open FormRules.Text

/-- A letter or underscore, then letters, numbers and underscores. -/
def isIdentifier (name : String) : Bool :=
  match name.toList with
  | [] => false
  | first :: rest => isWordStart first && rest.all isWordCharacter

end FormRules
