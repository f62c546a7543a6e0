/-!
Contract: a tree of directories, files and links, as a value.

Owns:
- what is at a location, and the children of a directory;
- the failures of a file system, with their texts;
- the contents of files, text or not.

Does not own: paths, which may lead through links and back up.
-/

namespace FormRules

/-- The names on the way from the root. -/
abbrev Location := List String

inductive Content where
  | text (value : String)
  /-- Bytes that are no text. -/
  | binary (bytes : List UInt8)
deriving DecidableEq, Repr

/-- The content of a file with the given bytes. -/
def Content.ofBytes (bytes : ByteArray) : Content :=
  match String.fromUTF8? bytes with
  | some value => .text value
  | none => .binary bytes.toList

inductive Entry where
  | directory
  | file (content : Content)
  | link (target : String)
deriving DecidableEq, Repr

/-- Why a file system refuses. -/
inductive FileFault where
  | noSuchEntry
  | busy
  | alreadyExists
  | notDirectory
  | isDirectory
  | nameTooLong
  | tooManyLinks
  | notText
  | zeroInPath
deriving DecidableEq, Repr

namespace FileFault

def message : FileFault → String
  | .noSuchEntry => "No such file or directory (os error 2)"
  | .busy => "Device or resource busy (os error 16)"
  | .alreadyExists => "File exists (os error 17)"
  | .notDirectory => "Not a directory (os error 20)"
  | .isDirectory => "Is a directory (os error 21)"
  | .nameTooLong => "File name too long (os error 36)"
  | .tooManyLinks => "Too many levels of symbolic links (os error 40)"
  | .notText => "stream did not contain valid UTF-8"
  | .zeroInPath => "file name contained an unexpected NUL byte"

end FileFault

/-- Everything below the root, and the directory that relative paths start
from. -/
structure FileTree where
  entries : List (Location × Entry) := []
  workingDirectory : Location := []
deriving DecidableEq, Repr

namespace FileTree

/-- What is at a location; the root is always there. -/
def get? (tree : FileTree) (location : Location) : Option Entry :=
  if location = [] then some .directory else tree.entries.lookup location

/-- The tree with an entry put at a location, in place of the one there. -/
def put (tree : FileTree) (location : Location) (entry : Entry) : FileTree :=
  { tree with entries := (location, entry) :: tree.entries.filter fun item => item.1 != location }

/-- The tree without the entry at a location. -/
def erase (tree : FileTree) (location : Location) : FileTree :=
  { tree with entries := tree.entries.filter fun item => item.1 != location }

/-- The names in a directory, in order of their code points. -/
def children (tree : FileTree) (location : Location) : List String :=
  (tree.entries.filterMap fun item =>
    if item.1.dropLast = location then item.1.getLast? else none).mergeSort

/-- Every location below a directory with its entry: a directory before what
is in it, and siblings in order of their names. -/
def below (tree : FileTree) (location : Location) : List (Location × Entry) :=
  ((tree.entries.filterMap fun item =>
      if location.isPrefixOf item.1 && location.length < item.1.length then
        some (item.1.drop location.length, item.2)
      else none).mergeSort fun left right => !decide (right.1 < left.1))

theorem get?_put_self (tree : FileTree) {location : Location} (entry : Entry)
    (proper : location ≠ []) :
    (tree.put location entry).get? location = some entry := by
  simp [get?, put, proper]

theorem get?_put_of_ne (tree : FileTree) {location other : Location} (entry : Entry)
    (different : other ≠ location) :
    (tree.put location entry).get? other = tree.get? other := by
  unfold get? put
  by_cases root : other = []
  · simp [root]
  · have unequal : (other == location) = false := by simpa using different
    simp only [root, if_false, List.lookup_cons, unequal]
    induction tree.entries with
    | nil => rfl
    | cons head rest inductionHypothesis =>
        obtain ⟨place, kept⟩ := head
        by_cases same : place = location
        · simp only [List.filter_cons, same, bne_self_eq_false, Bool.false_eq_true, if_false,
            List.lookup_cons, unequal, inductionHypothesis]
        · have keeps : (place != location) = true := by simpa using same
          simp only [List.filter_cons, keeps, if_true, List.lookup_cons, inductionHypothesis]

end FileTree

end FormRules
