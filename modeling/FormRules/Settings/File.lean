import FormRules.Settings.Overrides
import FormRules.Settings.Record
import FormRules.Toml

/-!
Contract: settings from the text of a configuration file.

Owns: the dialect of records in such a file, and the check that what comes out
is valid.

Does not own: where the file is.
-/

namespace FormRules

/-- The dialect of TOML documents: nothing is an empty table or array. -/
def Toml.dialect : Json.Dialect where
  extraElements := true
  isUnit
    | .object [] | .array [] => true
    | _ => false

namespace Settings

/-- The settings in a text, in their normal form. -/
def parse (text : String) : Except Error Settings :=
  match (Toml.parse? text).bind (ofJson? Toml.dialect) with
  | none => .error (.toml "not a settings document")
  | some settings => settings.normalized.validate.map fun _ => settings.normalized

/-- The settings in a text, with overrides in force. -/
def parseWith (text : String) (overrides : Overrides) : Except Error Settings := do
  let settings ← parse text
  settings.override overrides

end Settings

end FormRules
