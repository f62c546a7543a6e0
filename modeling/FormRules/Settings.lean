import FormRules.Error
import FormRules.Identifier
import FormRules.SkipLists
import FormRules.Text.Case
import FormRules.Text.Split

/-!
Contract: what a generation run can be told.

Owns:
- the output formats and the two ways to meet a failure;
- the settings, their defaults and their normal form;
- the check of the namespace and of the extension.

Does not own: the sources that settings come from.
-/

namespace FormRules

inductive Format where
  | php
  | json
deriving DecidableEq, Repr

namespace Format

/-- The name of a format, which is also the extension of its files. -/
def name : Format → String
  | .php => "php"
  | .json => "json"

def named : List (String × Format) :=
  [("php", .php), ("json", .json)]

/-- The format with a name, in letters of any case; otherwise why there is
none. -/
def ofText (text : String) : Except String Format :=
  match named.lookup (Text.lowercase text) with
  | some format => .ok format
  | none => .error ("unknown output format '" ++ Text.lowercase text ++ "'")

end Format

/-- What a failed source does to the run. -/
inductive FailurePolicy where
  | abort
  | proceed
deriving DecidableEq, Repr

/-- The words for the policies in configuration files. -/
def FailurePolicy.named : List (String × FailurePolicy) :=
  [("abort", .abort), ("continue", .proceed)]

def FailurePolicy.name : FailurePolicy → String
  | .abort => "abort"
  | .proceed => "continue"

structure Settings where
  migrationsDirectory : String := "database/migrations"
  outputDirectory : String := "app/Http/Requests"
  /-- The extension of migration files, without its dot. -/
  extension : String := "php"
  format : Format := .php
  /-- The namespace that the namespaces of generated classes start with. -/
  rootNamespace : String := "App\\Http\\Requests"
  skip : SkipLists := {}
  /-- Leave out columns of unknown type. -/
  dropUnmapped : Bool := true
  atomicWrites : Bool := true
  onFailure : FailurePolicy := .abort
  dryRun : Bool := false
deriving DecidableEq, Repr

namespace Settings

/-- The namespace is kept without backslashes around it. -/
def withNamespace (settings : Settings) (name : String) : Settings :=
  { settings with rootNamespace := Text.trimEnds '\\' name }

/-- The extension is kept without dots before it. -/
def withUndottedExtension (settings : Settings) (extension : String) : Settings :=
  { settings with extension := Text.trimStart '.' extension }

def normalized (settings : Settings) : Settings :=
  (settings.withNamespace settings.rootNamespace).withUndottedExtension settings.extension

/-- The first part of a namespace that is not an identifier; the empty
namespace has no parts. -/
def invalidSegment? (name : String) : Option String :=
  if name = "" then none
  else (Text.splitAt '\\' name).find? fun segment => !isIdentifier segment

/-- The characters that an extension must not hold. -/
def extensionBreaks : List Char := ['.', '/', '\\']

/-- A non-empty text without dots and separators. -/
def isBareExtension (extension : String) : Bool :=
  !extension.toList.isEmpty &&
    extension.toList.all fun character => !extensionBreaks.contains character

def validate (settings : Settings) : Except Error Unit :=
  match invalidSegment? settings.rootNamespace with
  | some segment =>
      .error (.invalidSettings ("namespace '" ++ settings.rootNamespace ++
        "' has invalid segment '" ++ segment ++ "'"))
  | none =>
      if isBareExtension settings.extension then .ok ()
      else
        .error (.invalidSettings
          ("extension '" ++ settings.extension ++ "' must be a bare file extension"))

end Settings

end FormRules
