import FormRules.Program

/-!
Contract: the program in the world.

Owns: arguments and variables; the part of the file system that a run is
about, read before it and changed after it; the two output streams.

Does not own: any decision of the run, which is made on values alone.
-/

open FormRules

namespace FormRules.World

def pathText (location : Location) : String :=
  "/" ++ "/".intercalate location

/-- Read what names lead to from a directory on, and a number of levels below
it.  A link is read as a link to what it comes to in the end. -/
partial def load (links : Nat) (tree : FileTree) (location : Location) (names : List String)
    (levels : Nat) : IO FileTree := do
  match names, levels with
  | [], 0 => return tree
  | [], levels + 1 =>
      if tree.get? location != some .directory then return tree
      let mut tree := tree
      for child in ← (← IO.FS.realPath (pathText location)).readDir do
        tree ← load links tree location [child.fileName] levels
      return tree
  | "." :: rest, levels => load links tree location rest levels
  | ".." :: rest, levels => load links tree location.dropLast rest levels
  | name :: rest, levels =>
      let next := location ++ [name]
      let path := pathText next
      let some details ← (some <$> (IO.FS.DirEntry.mk (pathText location) name).path.symlinkMetadata)
          <|> pure none
        | return tree
      match details.type with
      | .dir => load links (tree.put next .directory) next rest levels
      | .file =>
          return tree.put next (.file (Content.ofBytes (← IO.FS.readBinFile path)))
      | .symlink =>
          let some target ← (some <$> IO.FS.realPath path) <|> pure none
            | return tree
          let tree := tree.put next (.link target.toString)
          if links = 0 then return tree
          load (links - 1) tree [] ((Route.ofText target.toString).names ++ rest) levels
      | .other => return tree

/-- Read what a path leads to. -/
def loadPath (tree : FileTree) (item : String × Nat) : IO FileTree :=
  let route := Route.ofText item.1
  load FileTree.linkLimit tree (if route.absolute then [] else tree.workingDirectory) route.names
    item.2

/-- Read all that a run is about. -/
def loadFor (environment : CommandLine.Environment) (arguments : List String) : IO FileTree := do
  let here := Route.ofText (← IO.currentDir).toString
  let empty ← load FileTree.linkLimit { workingDirectory := here.names } [] here.names 0
  match CommandLine.parse environment arguments with
  | .error _ => return empty
  | .ok invocation =>
      let tree ← loadPath empty (invocation.settingsFile.getD Settings.usualFile, 0)
      (invocation.paths tree).foldlM loadPath tree

/-- Bring a changed entry to the file system; a file is finished under another
name first. -/
def storeEntry (location : Location) : Entry → IO Unit
  | .directory => IO.FS.createDirAll (pathText location)
  | .link _ => return ()
  | .file content => do
      let path := pathText location
      let unfinished := path ++ ".unfinished"
      match content with
      | .text text => IO.FS.writeFile unfinished text
      | .binary bytes => IO.FS.writeBinFile unfinished ⟨bytes.toArray⟩
      IO.FS.rename unfinished path

/-- Bring all changes to the file system, the oldest first. -/
def store (before after : FileTree) : IO Unit :=
  after.entries.reverse.forM fun (location, entry) =>
    if before.get? location == some entry then return () else storeEntry location entry

def environment : IO CommandLine.Environment := do
  let names := [Program.filterVariable, "RULEGEN_CONFIG", "RULEGEN_OUTPUT"]
  let values ← names.mapM fun name => return (← IO.getEnv name).map fun value => (name, value)
  return values.filterMap id

/-- Colours are for terminals, unless the user has refused them. -/
def colours : IO Bool := do
  return (← (← IO.getStdout).isTty) && (← IO.getEnv "NO_COLOR").isNone

end FormRules.World

def main (arguments : List String) : IO UInt32 := do
  let environment ← World.environment
  let before ← World.loadFor environment arguments
  let ending := Program.run environment arguments (← World.colours) before
  World.store before ending.tree
  (← IO.getStdout).putStr ending.output
  (← IO.getStderr).putStr ending.diagnostics
  return ending.exitCode
