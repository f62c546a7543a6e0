/-!
Contract: everything that can go wrong, by cause, and how it is reported.

Owns:
- `Error`, one constructor a cause, and its message;
- the two classes of errors that callers ask for.

Does not own: what the reader of a JSON or TOML document found wrong; that
text is a parameter here.
-/

namespace FormRules

inductive Error where
  | validation (message : String)
  | tableValidation (table message : String)
  | columnValidation (table column message : String)
  | migrationsDirectoryNotFound (path : String)
  | schemaParse (path message : String)
  | invalidOutputPath (path : String)
  | fileRead (path message : String)
  | fileWrite (path message : String)
  | directoryCreate (path message : String)
  | json (detail : String)
  | toml (detail : String)
  | invalidSettings (message : String)
  | inContext (context message : String)
deriving DecidableEq, Repr

namespace Error

def message : Error → String
  | .validation message => "Validation error: " ++ message
  | .tableValidation table message =>
      "Table validation failed for '" ++ table ++ "': " ++ message
  | .columnValidation table column message =>
      "Column validation failed for '" ++ table ++ "." ++ column ++ "': " ++ message
  | .migrationsDirectoryNotFound path => "Migrations directory not found: " ++ path
  | .schemaParse path message =>
      "Failed to parse schema file '" ++ path ++ "': " ++ message
  | .invalidOutputPath path => "Invalid output path: " ++ path
  | .fileRead path message => "Failed to read file '" ++ path ++ "': " ++ message
  | .fileWrite path message => "Failed to write file '" ++ path ++ "': " ++ message
  | .directoryCreate path message =>
      "Failed to create directory '" ++ path ++ "': " ++ message
  | .json detail => "JSON serialization error: " ++ detail
  | .toml detail => "TOML error: " ++ detail
  | .invalidSettings message => "Invalid configuration: " ++ message
  | .inContext context message => context ++ ": " ++ message

/-- The error as the detail of a larger undertaking. -/
def within (error : Error) (context : String) : Error :=
  .inContext context error.message

/-- Something described does not meet its own rules. -/
def isValidation : Error → Bool
  | .validation _ | .tableValidation _ _ | .columnValidation _ _ _ => true
  | _ => false

/-- The file system refused. -/
def isFileSystem : Error → Bool
  | .fileRead _ _ | .fileWrite _ _ | .directoryCreate _ _ | .migrationsDirectoryNotFound _ => true
  | _ => false

end Error

end FormRules
