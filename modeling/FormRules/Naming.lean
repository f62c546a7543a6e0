import FormRules.Text.Words

/-!
Contract: the names of generated classes.

Owns:
- the singular of an English plural in small letters;
- the class and request names of a table.

Does not own: how a name is divided into words.
-/

namespace FormRules.Naming

/-! ## Singular forms -/

/-- Words that are their own singular. -/
def uncountable : List String :=
  ["data", "equipment", "fish", "information", "metadata", "news", "series", "sheep", "species"]

/-- Plurals that follow no rule, with their singulars. -/
def irregular : List (String × String) :=
  [("people", "person"), ("men", "man"), ("women", "woman"), ("children", "child"),
   ("mice", "mouse"), ("geese", "goose"), ("feet", "foot"), ("teeth", "tooth"), ("oxen", "ox"),
   ("criteria", "criterion"), ("indices", "index"), ("vertices", "vertex"),
   ("matrices", "matrix"), ("quizzes", "quiz"), ("movies", "movie"), ("cookies", "cookie"),
   ("shoes", "shoe"), ("knives", "knife"), ("wives", "wife"), ("lives", "life"),
   ("leaves", "leaf"), ("halves", "half"), ("shelves", "shelf"), ("wolves", "wolf")]

/-- Endings and what they become, in order of precedence.  An ending that
becomes itself protects words that only look like plurals. -/
def endings : List (String × String) :=
  [("statuses", "status"), ("campuses", "campus"), ("aliases", "alias"), ("viruses", "virus"),
   ("buses", "bus"), ("status", "status"), ("campus", "campus"), ("alias", "alias"),
   ("virus", "virus"), ("bus", "bus"), ("ius", "ius"), ("yses", "ysis"), ("sis", "sis"),
   ("xis", "xis"), ("oes", "o"), ("sses", "ss"), ("shes", "sh"), ("ches", "ch"), ("xes", "x"),
   ("ss", "ss")]

/-- What comes before an ending, if the word has it. -/
def stem? (word ending : List Char) : Option (List Char) :=
  if ending.isSuffixOf word then some (word.take (word.length - ending.length)) else none

/-- The singular by the first ending that the word has. -/
def byEnding? (word : List Char) : Option (List Char) :=
  endings.findSome? fun (ending, replacement) =>
    (stem? word ending.toList).map fun stem => stem ++ replacement.toList

/-- More than one byte, the last letter not a vowel and not y: `ties` is no
plural of a word in y, but `categories` is, and so is any stem that is one
letter beyond ASCII. -/
def takesY (stem : List Char) : Bool :=
  1 < (String.ofList stem).utf8ByteSize &&
    stem.getLast?.any fun last => !"aeiouy".toList.contains last

/-- A plural in -ies of a word in -y. -/
def byConsonantY? (word : List Char) : Option (List Char) :=
  (stem? word "ies".toList).bind fun stem => if takesY stem then some (stem ++ ['y']) else none

/-- The word without a final s, unless it is nothing else. -/
def withoutFinalS (word : List Char) : List Char :=
  match stem? word ['s'] with
  | some (first :: rest) => first :: rest
  | _ => word

/-- The singular of a word in small letters. -/
def singularWord (word : List Char) : List Char :=
  if (uncountable.map String.toList).contains word then word
  else
    match (irregular.map fun pair => (pair.1.toList, pair.2.toList)).lookup word with
    | some singular => singular
    | none => ((byEnding? word).or (byConsonantY? word)).getD (withoutFinalS word)

/-! ## Names of a table -/

/-- The words of a name in small letters, the last one in the singular. -/
def singular (name : List Char) : List Char :=
  let snake := Text.snake name
  let last := (snake.reverse.takeWhile (· != '_')).reverse
  snake.take (snake.length - last.length) ++ singularWord last

/-- The class that stands for a row of the table. -/
def className (table : String) : String :=
  String.ofList (Text.pascal (singular table.toList))

/-- The class that holds the rules of the table. -/
def requestName (table : String) : String :=
  className table ++ "Request"

end FormRules.Naming
