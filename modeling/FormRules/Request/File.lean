import FormRules.Json.Print
import FormRules.Request.ClassText

/-!
Contract: the file generated for a table.

Owns:
- the JSON document of a request;
- the file with its place, in either format.

Does not own: how the file is brought to its place.
-/

namespace FormRules

structure GeneratedFile where
  /-- The place below the output directory. -/
  path : String
  content : String
  format : Format
  table : String
deriving DecidableEq, Repr

namespace Request

/-- The request as a JSON document, which says what the class would check. -/
def document (request : Request) : Json :=
  .object
    [("class", .string request.requestName),
     ("table", .string request.table),
     ("rules", request.rules.toJson)]

def documentText (request : Request) : String :=
  request.document.pretty ++ "\n"

def text (request : Request) : String :=
  match request.format with
  | .php => request.classText
  | .json => request.documentText

def file (request : Request) : GeneratedFile where
  path := request.relativePath
  content := request.text
  format := request.format
  table := request.table

end Request

/-- The file that a table calls for. -/
def GeneratedFile.ofTable (settings : Settings) (table : Table) : GeneratedFile :=
  (Request.ofTable settings table).file

end FormRules
