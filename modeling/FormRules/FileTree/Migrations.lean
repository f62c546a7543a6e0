import FormRules.Error
import FormRules.FileTree.Walk
import FormRules.Path
import FormRules.Text.Case

/-!
Contract: the migration files of a directory.

Owns: which entries of a directory are migrations, and their order.

Does not own: what is in a migration.
-/

namespace FormRules.FileTree

/-- A file with the wanted extension, in letters of any case; links do not
count.  Dots before the wanted extension mean nothing. -/
def isMigration (tree : FileTree) (directory : Location) (extension name : String) : Bool :=
  match tree.get? (directory ++ [name]), Path.extension? name with
  | some (.file _), some found => Text.sameIgnoringCase found (Text.trimStart '.' extension)
  | _, _ => false

/-- The paths of the migrations right in a directory, in order of their names. -/
def migrations (tree : FileTree) (directory extension : String) : Except Error (List String) :=
  match tree.find directory with
  | .ok (.existing location .directory) =>
      .ok (((tree.children location).filter (tree.isMigration location extension)).map
        (Path.join directory))
  | _ => .error (.migrationsDirectoryNotFound directory)

end FormRules.FileTree
