import FormRules.Failure
import FormRules.FileTree.Walk
import FormRules.Log
import FormRules.Settings.File

/-!
Contract: the settings that a run starts from.

Owns: which file they come from, and what happens without one.

Does not own: the text of the file.
-/

namespace FormRules.Settings

/-- The file that is taken if it is there. -/
def usualFile : String := "rulegen.toml"

/-- The file to read: the one asked for, or the usual one if it is there. -/
def fileToRead? (tree : FileTree) (asked : Option String) : Option String :=
  asked.or (if tree.isFile usualFile then some usualFile else none)

def load (tree : FileTree) (asked : Option String) : Except Failure Settings :=
  match fileToRead? tree asked with
  | none => .ok {}
  | some path =>
      match tree.readText path with
      | .error fault =>
          .error { message := "Failed to read config file '" ++ path ++ "'",
                   causes := [fault.message] }
      | .ok text =>
          (parse text).mapError fun error =>
            (Failure.ofError error).within ("Invalid config file '" ++ path ++ "'")

/-- What the log says about settings that could be loaded. -/
def loadEvents (tree : FileTree) (asked : Option String) : List Event :=
  match fileToRead? tree asked, load tree asked with
  | none, _ => [⟨.settings, .debug, "no config file, using defaults", []⟩]
  | some path, .ok _ => [⟨.settings, .debug, "config loaded", [("path", path)]⟩]
  | some _, .error _ => []

end FormRules.Settings
