/-!
Contract: texts cut at separators, and texts freed of a character at their ends.

Owns: `splitBy`, whose pieces, joined by the separators, are the text again,
and the trimming of one character.

Does not own: which characters separate in a name, a path or a list.
-/

namespace FormRules.Text

/-- The pieces between separators; two neighbouring separators enclose an
empty piece. -/
def splitBy (separates : Char → Bool) : List Char → List (List Char)
  | [] => [[]]
  | character :: rest =>
      if separates character then [] :: splitBy separates rest
      else
        match splitBy separates rest with
        | [] => [[character]]
        | piece :: more => (character :: piece) :: more

/-- The pieces of a text between occurrences of one character. -/
def splitAt (separator : Char) (text : String) : List String :=
  (splitBy (· == separator) text.toList).map String.ofList

/-- The text without the given character at its start. -/
def trimStart (unwanted : Char) (text : String) : String :=
  String.ofList (text.toList.dropWhile (· == unwanted))

/-- The text without the given character at either end. -/
def trimEnds (unwanted : Char) (text : String) : String :=
  String.ofList
    ((text.toList.dropWhile (· == unwanted)).reverse.dropWhile (· == unwanted)).reverse

end FormRules.Text
