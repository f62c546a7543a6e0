import FormRules.Text.Split

/-!
Contract: path texts, without regard to what they lead to.

Owns:
- joining, and the paths of the directories above a path;
- the extension of a file name.

Does not own: whether there is anything at a path.
-/

namespace FormRules.Path

def isAbsolute (path : String) : Bool :=
  path.toList.head? == some '/'

/-- A path seen from another one: an absolute path stays as it is. -/
def join (base path : String) : String :=
  if isAbsolute path then path
  else if base = "" || base.toList.getLast? == some '/' then base ++ path
  else base ++ "/" ++ path

/-- A piece of a path that leads nowhere new. -/
def isIdle (piece : String) : Bool :=
  piece == "" || piece == "."

/-- The pieces up to the last one that is not idle. -/
def dropIdleEnd (pieces : List String) : List String :=
  (pieces.reverse.dropWhile isIdle).reverse

/-- The pieces before the last one that is not idle, if there is one. -/
def beforeLast? (pieces : List String) : Option (List String) :=
  match dropIdleEnd pieces with
  | [] => none
  | first :: rest => some (dropIdleEnd (first :: rest).dropLast)

/-- The path without its last component; nothing for the root and for the
empty path.  A dot at the very start of a relative path is a component. -/
def parent? (path : String) : Option String :=
  match Text.splitAt '/' path with
  | "" :: rest =>
      if rest.isEmpty then none
      else (beforeLast? rest).map fun pieces => "/" ++ "/".intercalate pieces
  | "." :: rest =>
      match beforeLast? rest with
      | some pieces => some ("/".intercalate ("." :: pieces))
      | none => some ""
  | pieces => (beforeLast? pieces).map fun pieces => "/".intercalate pieces

/-- The path and the paths above it, at most as many as the fuel says. -/
def ancestorsWithin : Nat → String → List String
  | 0, path => [path]
  | fuel + 1, path =>
      path :: match parent? path with
        | some parent => ancestorsWithin fuel parent
        | none => []

/-- The path, the path above it, and so on.  Each is shorter than the one
before it. -/
def ancestors (path : String) : List String :=
  ancestorsWithin path.length path

/-- What follows the last dot of a file name, unless that dot comes first. -/
def extension? (name : String) : Option String :=
  match (Text.splitAt '.' name).reverse with
  | [] | [_] | [_, ""] => none
  | extension :: _ => some extension

end FormRules.Path
