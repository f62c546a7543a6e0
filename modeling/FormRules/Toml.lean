import FormRules.Toml.Value

/-!
Contract: a TOML document as one value.

Owns:
- the lines of a document: headers, assignments, comments;
- the table that they build up.

Does not own: the values on the right of an equals sign.
-/

namespace FormRules.Toml

/-- What one line says. -/
inductive Line where
  | table (path : List String)
  | element (path : List String)
  | assignment (key : List String) (value : Json)

/-- A header after its opening bracket. -/
def readHeader (source : List Char) : Option (Line × List Char) := do
  let (path, rest) ← readKey source
  match rest with
  | ']' :: rest => return (.table path, rest)
  | _ => none

/-- The header of a further table, after its opening brackets. -/
def readElementHeader (source : List Char) : Option (Line × List Char) := do
  let (path, rest) ← readKey source
  match rest with
  | ']' :: ']' :: rest => return (.element path, rest)
  | _ => none

def readStatement : List Char → Option (Line × List Char)
  | '[' :: '[' :: rest => readElementHeader rest
  | '[' :: rest => readHeader rest
  | source => (readAssignment (readValue (depthLimit - 1)) source).map
      fun ((key, value), rest) => (.assignment key value, rest)

/-- Blanks and a comment, up to the end of the line or of the text. -/
def readLineEnd (source : List Char) : Option (List Char) :=
  let rest := match source.dropWhile isBlank with
    | '#' :: comment => comment.dropWhile isVisible
    | rest => rest
  match rest with
  | [] => some []
  | '\n' :: rest | '\r' :: '\n' :: rest => some rest
  | _ => none

/-- The lines of a text that say something, at most as many as the fuel says. -/
def readLines : Nat → List Char → Option (List Line)
  | 0, source => if skipGap false source = [] then some [] else none
  | fuel + 1, source =>
      match skipGap false source with
      | [] => some []
      | start => do
          let (line, rest) ← readStatement start
          let after ← readLineEnd rest
          let lines ← readLines fuel after
          return line :: lines

/-- The table built so far, and the path of the last header. -/
structure Draft where
  entries : Entries := []
  header : List String := []

/-- The effect of one line. -/
def Draft.add (draft : Draft) : Line → Option Draft
  | .table path => (atHeader startTable path draft.entries).map fun entries => ⟨entries, path⟩
  | .element path => (atHeader startElement path draft.entries).map fun entries => ⟨entries, path⟩
  | .assignment key value =>
      (alter false (fun _ inner => assign key value inner) draft.header .header draft.entries).map
        fun entries => { draft with entries }

/-- A byte order mark at the start of a text means nothing. -/
def withoutMark : List Char → List Char
  | '\uFEFF' :: rest => rest
  | source => source

/-- The value of a document. -/
def parse? (text : String) : Option Json := do
  let source := withoutMark text.toList
  let lines ← readLines source.length source
  let draft ← lines.foldlM Draft.add {}
  return .object (entriesJson draft.entries)

end FormRules.Toml
