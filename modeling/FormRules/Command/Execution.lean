import FormRules.Failure
import FormRules.FileTree
import FormRules.Log

/-!
Contract: what a command leaves behind.

Owns: the output, the failure if there is one, the file tree and the log.

Does not own: any particular command.
-/

namespace FormRules

structure Execution where
  output : String := ""
  failure : Option Failure := none
  tree : FileTree
  events : List Event := []

namespace Execution

/-- A command that has failed before it printed anything. -/
def failed (tree : FileTree) (failure : Failure) (events : List Event) : Execution where
  failure := some failure
  tree
  events

/-- Events that come before those of the command. -/
def after (events : List Event) (execution : Execution) : Execution :=
  { execution with events := events ++ execution.events }

/-- Only a command without failure is a success. -/
def exitCode (execution : Execution) : UInt32 :=
  if execution.failure.isSome then 1 else 0

end Execution

end FormRules
