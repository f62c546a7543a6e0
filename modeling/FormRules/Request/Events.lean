import FormRules.Log
import FormRules.Request

/-!
Contract: what the log says about the request of a table.

Owns: the warning about a name that is no identifier, and the columns without
rules.

Does not own: the request itself, which is made all the same.
-/

namespace FormRules.Request

/-- The warning about the first invalid name, if there is one. -/
def nameEvents (table : Table) : List Event :=
  match table.validate with
  | .ok () => []
  | .error error => [⟨.generation, .warn, error.message, [("table", table.name)]⟩]

/-- The columns that no rules are made for. -/
def droppedEvents (settings : Settings) (table : Table) : List Event :=
  (table.columns.filter fun column => (column.rules? table.name settings.dropUnmapped).isNone).map
    fun column =>
      ⟨.rules, .debug, "no rules for column",
        [("table", table.name), ("column", column.name), ("column_type", column.type.name)]⟩

def events (settings : Settings) (table : Table) : List Event :=
  nameEvents table ++ droppedEvents settings table

end FormRules.Request
