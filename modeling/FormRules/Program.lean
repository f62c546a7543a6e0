import FormRules.Command
import FormRules.Log.Filter

/-!
Contract: one run of the program, from its arguments to its end.

Owns:
- the filter of the log, by a variable or by the command line;
- what is printed where, and the exit code.

Does not own: the world outside, of which only arguments, variables and the
file tree are known.
-/

namespace FormRules.Program

def name : String := "rulegen"

def version : String := "0.1.0"

/-- How the program is called. -/
def usage : String :=
  "Usage: rulegen [-c FILE] [-v... | -q] generate [OPTIONS]\n" ++
  "       rulegen [-c FILE] [-v... | -q] inspect FILE [--json]\n"

/-- How a run has ended. -/
structure Ending where
  exitCode : UInt32
  output : String
  diagnostics : String
  tree : FileTree

/-- The variable that holds a log filter. -/
def filterVariable : String := "RUST_LOG"

/-- A filter that cannot be read counts as none. -/
def filter (environment : CommandLine.Environment) (invocation : Invocation) : Filter :=
  ((environment.lookup filterVariable).bind Filter.ofText?).getD
    (.ofLevel invocation.threshold)

/-- The log as far as a filter lets it through, a line an event. -/
def logText (filter : Filter) (events : List Event) : String :=
  String.join ((filter.lines events).map fun line => line ++ "\n")

/-- The end of a run that a stop has kept from starting. -/
def stopped (tree : FileTree) (stop : CommandLine.Stop) : Ending where
  exitCode := stop.exitCode
  output :=
    match stop with
    | .helpWanted => usage
    | .versionWanted => name ++ " " ++ version ++ "\n"
    | _ => ""
  diagnostics := if stop.exitCode = 0 then "" else usage
  tree

/-- The end of a command. -/
def finished (filter : Filter) (execution : Execution) : Ending where
  exitCode := execution.exitCode
  output := execution.output
  diagnostics :=
    logText filter execution.events ++
      (execution.failure.map Failure.text).getD ""
  tree := execution.tree

def run (environment : CommandLine.Environment) (arguments : List String) (colours : Bool)
    (tree : FileTree) : Ending :=
  match CommandLine.parse environment arguments with
  | .error stop => stopped tree stop
  | .ok invocation =>
      finished (filter environment invocation) (invocation.execute colours tree)

end FormRules.Program
