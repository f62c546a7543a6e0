import FormRules.Command.Generate
import FormRules.Command.Inspect
import FormRules.CommandLine
import FormRules.Settings.Load

/-!
Contract: an invocation carried out.

Owns:
- the loading of settings before the command;
- the paths that an invocation is about.

Does not own: the commands, or how an invocation is read.
-/

namespace FormRules.Invocation

def execute (colours : Bool) (tree : FileTree) (invocation : Invocation) : Execution :=
  match Settings.load tree invocation.settingsFile with
  | .error failure => .failed tree failure []
  | .ok settings =>
      let events := Settings.loadEvents tree invocation.settingsFile
      match invocation.command with
      | .generate overrides =>
          (Generate.execute colours invocation.quiet tree settings overrides).after events
      | .inspect file asJson =>
          (Inspect.execute colours asJson tree settings file).after events

/-- The paths that a command may read or write at, each with the number of
levels below it that matter as well. -/
def commandPaths (settings : Settings) : Command → List (String × Nat)
  | .inspect file _ => [(file, 0)]
  | .generate overrides =>
      let settings := settings.overriddenBy overrides
      (settings.outputDirectory, 2) ::
        match overrides.schema with
        | some path => [(path, 0)]
        | none => [(settings.migrationsDirectory, 1)]

/-- The paths of an invocation, as far as its settings can be loaded. -/
def paths (tree : FileTree) (invocation : Invocation) : List (String × Nat) :=
  match Settings.load tree invocation.settingsFile with
  | .ok settings => commandPaths settings invocation.command
  | .error _ => []

end FormRules.Invocation
