import FormRules.Extraction
import FormRules.Json.Parse
import FormRules.Table.Record

/-!
Contract: schema documents, which list described tables.

Owns:
- the reading of a document, with the check of its version;
- the extraction of each table in turn.

Does not own: the file a document is read from.
-/

namespace FormRules

/-- The latest version of schema documents that is understood. -/
def schemaVersion : UInt32 := 1

structure Schema where
  version : UInt32 := schemaVersion
  tables : List Table := []

namespace Schema

open FormRules.Json (fields? withDefault listOf strict)

def ofJson? (value : Json) : Option Schema := do
  let fields ← fields? strict ["version", "tables"] value
  return {
    version := ← withDefault fields "version" schemaVersion Json.word32?
    tables := ← withDefault fields "tables" [] (listOf Table.ofJson?) }

/-- The document in a text, if it is of a version that is understood. -/
def parse (text : String) : Except Error Schema :=
  match (Json.parse? text).bind ofJson? with
  | none => .error (.json "not a schema document")
  | some schema =>
      if schemaVersion < schema.version then
        .error (.validation ("unsupported schema version " ++
          Text.decimal schema.version.toNat ++ " (latest is " ++
          Text.decimal schemaVersion.toNat ++ ")"))
      else .ok schema

/-- What each table comes to, in order. -/
def extractions (schema : Schema) (skip : SkipLists) : List Extraction :=
  schema.tables.map (Extraction.ofTable skip)

end Schema

end FormRules
