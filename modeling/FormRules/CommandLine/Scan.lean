import FormRules.CommandLine.Flag

/-!
Contract: the arguments of one scope, looked at one after the other.

Owns:
- values that are still looked for, or found but not yet checked;
- long flags, clusters of letters, and values without a flag;
- the command that ends the first scope.

Does not own: what is checked once all arguments have been looked at.

A value that stands by itself after its flag is checked only when the next
flag or value comes up, or at the end; an unknown argument before that is
reported first.
-/

namespace FormRules.CommandLine

/-- What has been given in a scope: flags with their values, in order. -/
abbrev Given := List (Flag × String)

def Given.has (given : Given) (flag : Flag) : Bool :=
  given.any fun item => item.1 == flag

structure Scan where
  given : Given := []
  /-- A flag whose value is not checked, and the value if it has come up. -/
  pending : Option (Flag × Option String) := none
  /-- The value without a flag has come up. -/
  placed : Bool := false

namespace Scan

/-- Take a flag with its value, unless it may be given only once and has been,
or does not accept the value. -/
def add (scan : Scan) (flag : Flag) (value : String) : Except Stop Scan :=
  if scan.given.has flag && !flag.repeats then .error .conflict
  else if flag.accepts value then .ok { scan with given := scan.given ++ [(flag, value)] }
  else .error .invalidValue

/-- Check the value that is pending. -/
def settle (scan : Scan) : Except Stop Scan :=
  match scan.pending with
  | none => .ok scan
  | some (_, none) => .error .invalidValue
  | some (flag, some value) => { scan with pending := none }.add flag value

/-- A flag that takes no value. -/
def switch (scan : Scan) (flag : Flag) : Except Stop Scan := do
  let scan ← scan.settle
  match flag with
  | .help => .error .helpWanted
  | .version => .error .versionWanted
  | _ => scan.add flag ""

/-- A flag with a value in the same argument. -/
def attached (scan : Scan) (flag : Flag) (value : String) : Except Stop Scan := do
  let scan ← scan.settle
  scan.add flag value

/-- A flag whose value is to follow. -/
def await (scan : Scan) (flag : Flag) : Except Stop Scan := do
  let scan ← scan.settle
  .ok { scan with pending := some (flag, none) }

/-- A long flag, with the value after an equals sign if there is one. -/
def long (scope : Scope) (scan : Scan) (name : String) (value : Option String) :
    Except Stop Scan :=
  match scope.long? name with
  | none => .error .unknownArgument
  | some flag =>
      match flag.takesValue, value with
      | true, some value => scan.attached flag value
      | true, none => scan.await flag
      | false, some _ => .error .unexpectedValue
      | false, none => scan.switch flag

/-- Flags by their letters; a letter that takes a value takes what is left,
without an equals sign before it. -/
def letters (scope : Scope) (scan : Scan) : List Char → Except Stop Scan
  | [] => .ok scan
  | letter :: rest =>
      match scope.letter? letter with
      | none => .error .unknownArgument
      | some flag =>
          if flag.takesValue then
            match rest with
            | [] => scan.await flag
            | '=' :: value => scan.attached flag (String.ofList value)
            | value => scan.attached flag (String.ofList value)
          else
            match scan.switch flag with
            | .ok scan => letters scope scan rest
            | .error stop => .error stop

/-- A value without a flag: the file to inspect is the only one.  Before the
command, only the name of a command can stand there. -/
def positional (scope : Scope) (scan : Scan) (value : String) : Except Stop Scan :=
  if scope = .top then .error .unknownCommand
  else if scope = .inspect && !scan.placed then do
    let scan ← scan.settle
    .ok { scan with pending := some (.file, some value), placed := true }
  else .error .unknownArgument

/-- The flag that the next argument may be a value of. -/
def awaited? (scan : Scan) : Option Flag :=
  match scan.pending with
  | some (flag, none) => some flag
  | _ => none

/-- The parts of a long flag. -/
def splitLong (text : List Char) : String × Option String :=
  let name := String.ofList (text.takeWhile (· != '='))
  match text.dropWhile (· != '=') with
  | _ :: value => (name, some (String.ofList value))
  | [] => (name, none)

/-- One argument before any lone double dash. -/
def argument (scope : Scope) (scan : Scan) (argument : String) : Except Stop Scan :=
  match argument.toList with
  | '-' :: '-' :: text =>
      let (name, value) := splitLong text
      scan.long scope name value
  | '-' :: letter :: more => scan.letters scope (letter :: more)
  | _ =>
      match scan.awaited? with
      | some flag => .ok { scan with pending := some (flag, some argument) }
      | none => scan.positional scope argument

/-- All arguments of a command. -/
def arguments (scope : Scope) (scan : Scan) : List String → Except Stop Scan
  | [] => .ok scan
  | "--" :: rest => rest.foldlM (positional scope) scan
  | argument :: rest =>
      match scan.argument scope argument with
      | .ok scan => arguments scope scan rest
      | .error stop => .error stop

end Scan

end FormRules.CommandLine
