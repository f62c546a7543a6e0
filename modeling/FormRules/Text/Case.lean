import FormRules.Text.CaseClass
import FormRules.Text.CaseMap

/-!
Contract: case conversion and case-insensitive comparison of texts.

Owns:
- the lowercase form of a text, with the word-final form of the Greek sigma;
- comparison up to the case of ASCII letters.

Does not own: the division of a name into words.
-/

namespace FormRules.Text

/-- The nearest character that the sigma rule does not look through is cased. -/
def casedNext (text : List Char) : Bool :=
  match text.dropWhile isCaseIgnorable with
  | [] => false
  | character :: _ => isCased character

/-- A capital sigma becomes final where a cased letter comes before it and
none comes after it.  `before` is the text already passed, nearest first. -/
def lowercaseAfter (before : List Char) : List Char → List Char
  | [] => []
  | character :: rest =>
      (if character = 'Σ' then
        [if casedNext before && !casedNext rest then 'ς' else 'σ']
      else lower character) ++ lowercaseAfter (character :: before) rest

def lowercase (text : String) : String :=
  String.ofList (lowercaseAfter [] text.toList)

/-- The text with its ASCII capitals made small and all else kept. -/
def asciiFold (text : String) : List Char :=
  text.toList.map Char.toLower

/-- Equal up to the case of ASCII letters. -/
def sameIgnoringCase (left right : String) : Bool :=
  asciiFold left == asciiFold right

theorem sameIgnoringCase_iff {left right : String} :
    sameIgnoringCase left right = true ↔ asciiFold left = asciiFold right := by
  simp [sameIgnoringCase]

@[simp]
theorem sameIgnoringCase_self (text : String) : sameIgnoringCase text text = true := by
  simp [sameIgnoringCase]

end FormRules.Text
