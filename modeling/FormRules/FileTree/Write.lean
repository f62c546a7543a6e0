import FormRules.FileTree.Walk
import FormRules.Path

/-!
Contract: the changes a run makes to a file tree.

Owns:
- new directories, with those above them;
- writing a file at its place, and replacing whatever is at that place.

Does not own: which files are written.
-/

namespace FormRules.FileTree

/-! ## Directories -/

/-- Make one directory where there is nothing. -/
def makeDirectory (tree : FileTree) (path : String) : Except FileFault FileTree := do
  let route ← Route.ofPath path
  match ← tree.walk false route route.names with
  | .existing _ _ => .error .alreadyExists
  | .vacant directory name => .ok (tree.put (directory ++ [name]) .directory)

/-- Make a directory unless there is one. -/
def requireDirectory (tree : FileTree) (path : String) : Except FileFault FileTree :=
  match tree.makeDirectory path with
  | .error .alreadyExists =>
      if tree.isDirectory path then .ok tree else .error .alreadyExists
  | result => result

/-- Make the first of some paths a directory, where each path leads into the
directory of the one before it.  What has been made stays if a later one
fails. -/
def requireAll (tree : FileTree) : List String → Except FileFault Unit × FileTree
  | [] | [_] => (.ok (), tree)
  | path :: above =>
      if path = "" then (.ok (), tree)
      else
        match tree.requireDirectory path with
        | .ok tree => (.ok (), tree)
        | .error .noSuchEntry =>
            match tree.requireAll above with
            | (.error fault, tree) => (.error fault, tree)
            | (.ok (), tree) =>
                match tree.requireDirectory path with
                | .ok tree => (.ok (), tree)
                | .error fault => (.error fault, tree)
        | .error fault => (.error fault, tree)

/-- Make a directory with every directory on the way to it. -/
def createDirectories (tree : FileTree) (path : String) : Except FileFault Unit × FileTree :=
  tree.requireAll (Path.ancestors path)

/-! ## Files -/

/-- Write to the place a path leads to, through links. -/
def writeInPlace (tree : FileTree) (path : String) (content : Content) :
    Except FileFault FileTree := do
  let route ← Route.ofPath path
  if route.endsOpen then
    let _ ← tree.walk true route route.toParent
    .error .isDirectory
  else
    match ← tree.walk true route route.names with
    | .vacant directory name => .ok (tree.put (directory ++ [name]) (.file content))
    | .existing location (.file _) => .ok (tree.put location (.file content))
    | .existing _ .directory => .error .isDirectory
    | .existing _ (.link _) => .error .tooManyLinks

/-- Put a finished file at a path, in place of a file or link of that name. -/
def replaceFile (tree : FileTree) (path : String) (content : Content) :
    Except FileFault FileTree := do
  let route ← Route.ofPath path
  match ← tree.walk true route route.toParent with
  | .vacant _ _ => .error .noSuchEntry
  | .existing directory _ =>
      match route.names.getLast? with
      | none | some "." | some ".." => .error .busy
      | some name =>
          if Route.longestName < name.utf8ByteSize then .error .nameTooLong
          else if route.endsOpen then .error .notDirectory
          else
            match tree.get? (directory ++ [name]) with
            | some .directory => .error .isDirectory
            | _ => .ok (tree.put (directory ++ [name]) (.file content))

end FormRules.FileTree
