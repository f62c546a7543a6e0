import FormRules.FileTree
import FormRules.Text.Split

/-!
Contract: what a path leads to.

Owns:
- the names of a path, and the limits on names and paths;
- the walk along names, dots and links;
- the place a path comes to: an entry, or a free name in a directory.

Does not own: what is done at that place.
-/

namespace FormRules

open FormRules.Text

/-- The names of a path, with the dots among them. -/
structure Route where
  absolute : Bool
  names : List String
  /-- A slash follows the last name. -/
  endsOpen : Bool
deriving DecidableEq, Repr

namespace Route

/-- The route of a text, whatever its length. -/
def ofText (path : String) : Route :=
  let pieces := splitAt '/' path
  { absolute := path.toList.head? == some '/'
    names := pieces.filter (· != "")
    endsOpen := pieces.getLast? == some "" }

/-- The names to pass; a slash at the end asks for a directory, as a dot
does. -/
def through (route : Route) : List String :=
  if route.endsOpen then route.names ++ ["."] else route.names

/-- The names to pass to the directory that the last name is in. -/
def toParent (route : Route) : List String :=
  route.names.dropLast ++ ["."]

/-- The longest path, in bytes. -/
def longestPath : Nat := 4095

/-- The longest name in a directory, in bytes. -/
def longestName : Nat := 255

/-- The route of a path that the file system accepts. -/
def ofPath (path : String) : Except FileFault Route :=
  if path.toList.contains '\x00' then .error .zeroInPath
  else if path = "" then .error .noSuchEntry
  else if longestPath < path.utf8ByteSize then .error .nameTooLong
  else .ok (ofText path)

end Route

/-- Where a path leads. -/
inductive Place where
  | existing (location : Location) (entry : Entry)
  /-- There is nothing by this name in the directory. -/
  | vacant (directory : Location) (name : String)
deriving DecidableEq, Repr

/-- How far names lead before a link has to be followed. -/
inductive Stretch where
  | arrived (place : Place)
  | detour (directory : Location) (target : String) (rest : List String)
deriving DecidableEq, Repr

namespace FileTree

/-- Pass names one after the other up to the first link; a link in the last
place is followed on request only. -/
def stretch (tree : FileTree) (followLast : Bool) (location : Location) :
    List String → Except FileFault Stretch
  | [] =>
      match tree.get? location with
      | some entry => .ok (.arrived (.existing location entry))
      | none => .error .noSuchEntry
  | name :: rest =>
      match tree.get? location with
      | none => .error .noSuchEntry
      | some .directory =>
          if name = "." then stretch tree followLast location rest
          else if name = ".." then stretch tree followLast location.dropLast rest
          else if Route.longestName < name.utf8ByteSize then .error .nameTooLong
          else
            match tree.get? (location ++ [name]) with
            | none =>
                if rest.isEmpty then .ok (.arrived (.vacant location name))
                else .error .noSuchEntry
            | some (.link target) =>
                if rest.isEmpty && !followLast then
                  .ok (.arrived (.existing (location ++ [name]) (.link target)))
                else .ok (.detour location target rest)
            | some _ => stretch tree followLast (location ++ [name]) rest
      | some _ => .error .notDirectory

/-- Walk along names, following at most the given number of links. -/
def walkFrom (tree : FileTree) (followLast : Bool) : Nat → Location → List String →
    Except FileFault Place
  | links, location, names =>
      match tree.stretch followLast location names with
      | .error fault => .error fault
      | .ok (.arrived place) => .ok place
      | .ok (.detour directory target rest) =>
          match links with
          | 0 => .error .tooManyLinks
          | links + 1 =>
              let route := Route.ofText target
              walkFrom tree followLast links (if route.absolute then [] else directory)
                (route.through ++ rest)

/-- The number of links that one walk may follow. -/
def linkLimit : Nat := 40

/-- The place that some names of a route lead to. -/
def walk (tree : FileTree) (followLast : Bool) (route : Route) (names : List String) :
    Except FileFault Place :=
  tree.walkFrom followLast linkLimit (if route.absolute then [] else tree.workingDirectory) names

/-- The place a path leads to, through every link. -/
def find (tree : FileTree) (path : String) : Except FileFault Place := do
  let route ← Route.ofPath path
  tree.walk true route route.through

def isDirectory (tree : FileTree) (path : String) : Bool :=
  match tree.find path with
  | .ok (.existing _ .directory) => true
  | _ => false

def isFile (tree : FileTree) (path : String) : Bool :=
  match tree.find path with
  | .ok (.existing _ (.file _)) => true
  | _ => false

/-- The text of the file at a path. -/
def readText (tree : FileTree) (path : String) : Except FileFault String := do
  match ← tree.find path with
  | .existing _ (.file (.text text)) => .ok text
  | .existing _ (.file (.binary _)) => .error .notText
  | .existing _ .directory => .error .isDirectory
  | .existing _ (.link _) => .error .tooManyLinks
  | .vacant _ _ => .error .noSuchEntry

end FileTree

end FormRules
