import FormRules.Text.Case
import FormRules.Text.Numeric
import FormRules.Text.Split

/-!
Contract: the words of a name, and the two spellings built from them.

Owns:
- the division of a name at separators and at changes of case;
- `snake` (small words joined by underscores) and `pascal` (capitalised words
  joined by nothing).

Does not own: singular and plural.
-/

namespace FormRules.Text

/-- The case of the letters read since the last boundary. -/
inductive WordMode where
  | boundary
  | lowercase
  | uppercase
deriving DecidableEq, Repr

/-- A letter without case, or a digit, keeps the mode it is read in. -/
def WordMode.after (mode : WordMode) (character : Char) : WordMode :=
  if isLowercase character then .lowercase
  else if isUppercase character then .uppercase
  else mode

/-- Divide one piece: after a small letter that a capital follows, and before
the last capital of a run that a small letter follows.  `pending` is the
beginning of the current word. -/
def wordsOfPiece (mode : WordMode) (pending : List Char) : List Char → List (List Char)
  | [] => []
  | [character] => [pending ++ [character]]
  | character :: next :: rest =>
      if mode.after character = .lowercase && isUppercase next then
        (pending ++ [character]) :: wordsOfPiece .boundary [] (next :: rest)
      else if mode = .uppercase && isUppercase character && isLowercase next then
        pending :: wordsOfPiece .boundary [character] (next :: rest)
      else
        wordsOfPiece (mode.after character) (pending ++ [character]) (next :: rest)

def words (name : List Char) : List (List Char) :=
  (splitBy (fun character => !isAlphanumeric character) name).flatMap (wordsOfPiece .boundary [])

/-- A word in small letters; a capital sigma at its end takes the final form. -/
def lowerWord : List Char → List Char
  | [] => []
  | ['Σ'] => ['ς']
  | character :: rest => lower character ++ lowerWord rest

/-- A word with its first letter capital and the others small. -/
def capitalWord : List Char → List Char
  | [] => []
  | character :: rest => upper character ++ lowerWord rest

/-- `BlogPosts` becomes `blog_posts`. -/
def snake (name : List Char) : List Char :=
  ['_'].intercalate ((words name).map lowerWord)

/-- `blog_post` becomes `BlogPost`. -/
def pascal (name : List Char) : List Char :=
  (words name).flatMap capitalWord

end FormRules.Text
