import FormRules.CommandLine.Scan
import FormRules.Log
import FormRules.Settings.Overrides

/-!
Contract: the command line as a whole.

Owns:
- the command that is looked for among the first arguments;
- the checks after the last argument of a scope;
- which of several sources of a value counts;
- the invocation that comes out.

Does not own: what an invocation does.
-/

namespace FormRules

inductive Command where
  | generate (overrides : Overrides)
  | inspect (file : String) (asJson : Bool)
deriving DecidableEq, Repr

structure Invocation where
  settingsFile : Option String
  verbosity : Nat
  quiet : Bool
  command : Command
deriving DecidableEq, Repr

/-- The threshold that the invocation sets for the log. -/
def Invocation.threshold (invocation : Invocation) : Level :=
  if invocation.quiet then .error
  else
    match invocation.verbosity with
    | 0 => .warn
    | 1 => .info
    | _ => .debug

namespace CommandLine

/-! ## Scopes -/

/-- Values of environment variables. -/
abbrev Environment := List (String × String)

/-- What a scope was given on the command line, and what its variables add. -/
structure Settled where
  given : Given
  fromEnvironment : Given

namespace Settled

/-- A flag counts as given wherever its value comes from. -/
def has (settled : Settled) (flag : Flag) : Bool :=
  settled.given.has flag || settled.fromEnvironment.has flag

end Settled

/-- The values of variables for flags that are not given, if every one is
accepted. -/
def fromVariables (environment : Environment) (given : Given) :
    List (Flag × String) → Except Stop Given
  | [] => .ok []
  | (flag, name) :: rest =>
      match environment.lookup name with
      | none => fromVariables environment given rest
      | some value =>
          if given.has flag then fromVariables environment given rest
          else if !flag.accepts value then .error .invalidValue
          else (fromVariables environment given rest).map ((flag, value) :: ·)

/-- Check the last pending value, and add what variables say. -/
def settleScope (scope : Scope) (environment : Environment) (scan : Scan) :
    Except Stop Settled := do
  let scan ← scan.settle
  let added ← fromVariables environment scan.given scope.variables
  return ⟨scan.given, added⟩

/-- Conflicts come before missing arguments. -/
def check (scope : Scope) (settled : Settled) : Except Stop Unit :=
  if scope.conflicts.any fun (one, other) => settled.has one && settled.has other then
    .error .conflict
  else if scope = .inspect && !settled.has .file then .error .missingArgument
  else .ok ()

/-! ## The command -/

/-- The words that a command is looked for among. -/
def commandNamed? (name : String) : Option Scope :=
  [("generate", Scope.generate), ("inspect", .inspect)].lookup name

def isCommandWord (word : String) : Bool :=
  word == "help" || (commandNamed? word).isSome

/-- What the words after `help` come to: at most one command, and the word
itself counts as one. -/
def helpOn : List String → Stop
  | [] => .helpWanted
  | [word] => if isCommandWord word then .helpWanted else .unknownCommand
  | _ => .unknownCommand

/-- The first scope, with the command and its arguments if there is one. -/
def scanTop (scan : Scan) : List String → Except Stop (Scan × Option (Scope × List String))
  | [] => .ok (scan, none)
  | "--" :: rest =>
      match rest with
      | [] => .ok (scan, none)
      | word :: _ => .error (if isCommandWord word then .unknownArgument else .unknownCommand)
  | word :: rest =>
      if scan.awaited?.isNone && word == "help" then .error (helpOn rest)
      else
        match if scan.awaited?.isNone then commandNamed? word else none with
        | some scope => .ok (scan, some (scope, rest))
        | none =>
            match scan.argument .top word with
            | .ok scan => scanTop scan rest
            | .error stop => .error stop

/-! ## The invocation -/

/-- The value of a flag that is given at most once. -/
def value? (given : Given) (flag : Flag) : Option String :=
  given.lookup flag

def values (given : Given) (flag : Flag) : List String :=
  (given.filter fun item => item.1 == flag).map Prod.snd

def overridesOf (settled : Settled) : Overrides :=
  let given := settled.given ++ settled.fromEnvironment
  { migrations := value? given .migrations
    output := value? given .output
    schema := value? given .schema
    format := (value? given .format).bind fun name => Format.named.lookup name
    rootNamespace := value? given .rootNamespace
    extension := value? given .extension
    skipTables := values given .skipTable
    skipColumns := values given .skipColumn
    keepUnmapped := given.has .keepUnmapped
    continueOnError := given.has .continueOnError
    noAtomic := given.has .noAtomic
    dryRun := given.has .dryRun }

/-- The largest count of a flag. -/
def largestCount : Nat := 255

/-- The number of times a flag is given: after the command, or else before. -/
def countOf (top inner : Given) (flag : Flag) : Nat :=
  let given := if inner.has flag then inner else top
  min (values given flag).length largestCount

def commandOf (scope : Scope) (inner : Settled) : Command :=
  match scope with
  | .inspect => .inspect ((value? inner.given .file).getD "") (inner.given.has .asJson)
  | _ => .generate (overridesOf inner)

/-- Values on the command line win over variables, and those after the
command over those before. -/
def assemble (top : Settled) (scope : Scope) (inner : Settled) : Invocation where
  settingsFile :=
    value? (inner.given ++ top.given ++ inner.fromEnvironment ++ top.fromEnvironment) .settingsFile
  verbosity := countOf top.given inner.given .verbose
  quiet := inner.given.has .quiet || top.given.has .quiet
  command := commandOf scope inner

/-- Without a command, help is in order if nothing is given at all. -/
def withoutCommand (settled : Settled) : Stop :=
  if settled.given.isEmpty && settled.fromEnvironment.isEmpty then .nothingGiven
  else .missingCommand

/-- The invocation that arguments and environment variables stand for.  The
arguments of the command are looked at and checked before the last value in
front of the command. -/
def parse (environment : Environment) (arguments : List String) : Except Stop Invocation := do
  match ← scanTop {} arguments with
  | (scan, none) =>
      let settled ← settleScope .top environment scan
      .error (withoutCommand settled)
  | (scan, some (scope, rest)) =>
      let inner ← settleScope scope environment (← Scan.arguments scope {} rest)
      check scope inner
      let top ← settleScope .top environment scan
      check .top top
      return assemble top scope inner

end CommandLine

end FormRules
