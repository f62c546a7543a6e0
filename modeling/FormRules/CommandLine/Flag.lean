import FormRules.Settings

/-!
Contract: the flags of the command line.

Owns:
- the flags of the program and of its two commands, with their spellings;
- what each takes, and which values it accepts;
- why a command line is not run.

Does not own: the order in which arguments are looked at.
-/

namespace FormRules.CommandLine

/-- Everything that can be given, with or without a value. -/
inductive Flag where
  | help
  | version
  | settingsFile
  | verbose
  | quiet
  | migrations
  | output
  | schema
  | format
  | rootNamespace
  | extension
  | skipTable
  | skipColumn
  | keepUnmapped
  | continueOnError
  | noAtomic
  | dryRun
  | asJson
  /-- The file to inspect, which has no spelling. -/
  | file
deriving DecidableEq, Repr

/-- Where a flag can be given: before the command, or after it. -/
inductive Scope where
  | top
  | generate
  | inspect
deriving DecidableEq, Repr

/-- What a flag takes, and how often. -/
inductive Arity where
  /-- Ends the reading at once. -/
  | ending
  | once
  | counted
  | value
  | values
deriving DecidableEq, Repr

def Flag.arity : Flag → Arity
  | .help | .version => .ending
  | .verbose => .counted
  | .quiet | .keepUnmapped | .continueOnError | .noAtomic | .dryRun | .asJson => .once
  | .skipTable | .skipColumn => .values
  | .settingsFile | .migrations | .output | .schema | .format | .rootNamespace | .extension
  | .file => .value

def Flag.takesValue (flag : Flag) : Bool :=
  flag.arity == .value || flag.arity == .values

/-- A flag that may be given again. -/
def Flag.repeats (flag : Flag) : Bool :=
  flag.arity == .counted || flag.arity == .values

/-- Paths must not be empty, and formats are spelled as they are named. -/
def Flag.accepts (flag : Flag) (value : String) : Bool :=
  match flag with
  | .settingsFile | .migrations | .output | .schema | .file => value != ""
  | .format => (Format.named.lookup value).isSome
  | _ => true

/-- A flag with its long spelling and its letter. -/
structure Spelling where
  long : String
  letter : Option Char
  flag : Flag

/-- The flags that every scope knows. -/
def sharedSpellings : List Spelling :=
  [⟨"help", some 'h', .help⟩, ⟨"config", some 'c', .settingsFile⟩, ⟨"verbose", some 'v', .verbose⟩,
   ⟨"quiet", some 'q', .quiet⟩]

def Scope.ownSpellings : Scope → List Spelling
  | .top => [⟨"version", some 'V', .version⟩]
  | .generate =>
      [⟨"migrations", some 'm', .migrations⟩, ⟨"output", some 'o', .output⟩,
       ⟨"schema", none, .schema⟩, ⟨"format", some 'f', .format⟩,
       ⟨"namespace", none, .rootNamespace⟩, ⟨"extension", none, .extension⟩,
       ⟨"skip-table", none, .skipTable⟩, ⟨"skip-column", none, .skipColumn⟩,
       ⟨"keep-unmapped", none, .keepUnmapped⟩, ⟨"continue-on-error", none, .continueOnError⟩,
       ⟨"no-atomic", none, .noAtomic⟩, ⟨"dry-run", none, .dryRun⟩]
  | .inspect => [⟨"json", none, .asJson⟩]

def Scope.spellings (scope : Scope) : List Spelling :=
  sharedSpellings ++ scope.ownSpellings

def Scope.long? (scope : Scope) (name : String) : Option Flag :=
  (scope.spellings.find? fun spelling => spelling.long == name).map Spelling.flag

def Scope.letter? (scope : Scope) (letter : Char) : Option Flag :=
  (scope.spellings.find? fun spelling => spelling.letter == some letter).map Spelling.flag

/-- The environment variable that stands in for a flag that is not given. -/
def Scope.variables : Scope → List (Flag × String)
  | .generate => [(.settingsFile, "RULEGEN_CONFIG"), (.output, "RULEGEN_OUTPUT")]
  | _ => [(.settingsFile, "RULEGEN_CONFIG")]

/-- Flags of which only one may be given. -/
def Scope.conflicts : Scope → List (Flag × Flag)
  | .generate => [(.verbose, .quiet), (.migrations, .schema)]
  | _ => [(.verbose, .quiet)]

/-- Why a command line is not run. -/
inductive Stop where
  | helpWanted
  | versionWanted
  /-- Nothing at all is given, so that help is in order. -/
  | nothingGiven
  | unknownArgument
  | unknownCommand
  | missingCommand
  | missingArgument
  | invalidValue
  | unexpectedValue
  | conflict
deriving DecidableEq, Repr

/-- Only a stop that was asked for is a success. -/
def Stop.exitCode : Stop → UInt32
  | .helpWanted | .versionWanted => 0
  | _ => 2

end FormRules.CommandLine
