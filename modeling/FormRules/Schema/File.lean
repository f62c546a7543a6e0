import FormRules.FileTree.Walk
import FormRules.Schema

/-!
Contract: schema documents in files.

Owns: the two errors, of a file that cannot be read and of a text that is no
document.

Does not own: what a document says.
-/

namespace FormRules.Schema

def load (tree : FileTree) (path : String) : Except Error Schema :=
  match tree.readText path with
  | .error fault => .error (.fileRead path fault.message)
  | .ok text => (parse text).mapError fun error => .schemaParse path error.message

end FormRules.Schema
