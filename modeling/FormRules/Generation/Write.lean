import FormRules.FileTree.Write
import FormRules.Request.File

/-!
Contract: a generated file brought to its place.

Owns: the directories that are made for it, the two ways of writing, and the
error for each step that fails.

Does not own: what the file holds.
-/

namespace FormRules.GeneratedFile

/-- Put the content at a path, in one of the two ways. -/
def store (file : GeneratedFile) (tree : FileTree) (path : String) (atomic : Bool) :
    Except FileFault FileTree :=
  if atomic then tree.replaceFile path (.text file.content)
  else tree.writeInPlace path (.text file.content)

/-- Write the file below a base directory; the result is its full path. -/
def write (file : GeneratedFile) (tree : FileTree) (base : String) (atomic : Bool) :
    Except Error String × FileTree :=
  let path := Path.join base file.path
  match Path.parent? path with
  | none => (.error (.invalidOutputPath path), tree)
  | some parent =>
      match tree.createDirectories parent with
      | (.error fault, tree) => (.error (.directoryCreate parent fault.message), tree)
      | (.ok (), tree) =>
          match file.store tree path atomic with
          | .ok tree => (.ok path, tree)
          | .error fault => (.error (.fileWrite path fault.message), tree)

end FormRules.GeneratedFile
