import FormRules.Naming
import FormRules.Path
import FormRules.RuleSet
import FormRules.Settings

/-!
Contract: the request class of a table, before it is written out.

Owns: what the class is made of, its namespace and its place.

Does not own: the text of the class, or its file.
-/

namespace FormRules

structure Request where
  table : String
  /-- The namespace of all requests of the run. -/
  rootNamespace : String
  rules : RuleSet
  format : Format
deriving DecidableEq, Repr

namespace Request

def ofTable (settings : Settings) (table : Table) : Request where
  table := table.name
  rootNamespace := settings.rootNamespace
  rules := RuleSet.ofTable table settings.dropUnmapped
  format := settings.format

/-- The class of the rows that the request is about. -/
def className (request : Request) : String :=
  Naming.className request.table

def requestName (request : Request) : String :=
  Naming.requestName request.table

/-- A namespace of its own under the root, named for the class. -/
def namespaceName (request : Request) : String :=
  if request.rootNamespace = "" then request.className
  else request.rootNamespace ++ "\\" ++ request.className

/-- The place of the file below the output directory. -/
def relativePath (request : Request) : String :=
  Path.join request.className (request.requestName ++ "." ++ request.format.name)

end Request

end FormRules
