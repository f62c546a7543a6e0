import FormRules.Json
import FormRules.Rule
import FormRules.Table

/-!
Contract: the rules of a table, column by column.

Owns:
- the entries in column order, and lookup by column;
- the rule set of a table;
- the value it is written as in JSON documents.

Does not own: the class text that the rules are rendered into.
-/

namespace FormRules

structure RuleSet where
  table : String
  entries : List (String × List Rule) := []
deriving DecidableEq, Repr

namespace RuleSet

/-- Add an entry at the end, whether or not the column has one. -/
def push (set : RuleSet) (column : String) (rules : List Rule) : RuleSet :=
  { set with entries := set.entries ++ [(column, rules)] }

/-- The rules of the first entry of a column. -/
def get? (set : RuleSet) (column : String) : Option (List Rule) :=
  set.entries.lookup column

/-- The columns that have rules, with their rules. -/
def ofTable (table : Table) (dropUnmapped : Bool) : RuleSet where
  table := table.name
  entries := table.columns.filterMap fun column =>
    (column.rules? table.name dropUnmapped).map fun rules => (column.name, rules)

/-- An object with one member an entry, in order. -/
def toJson (set : RuleSet) : Json :=
  .object (set.entries.map fun (column, rules) =>
    (column, .array (rules.map fun rule => .string rule.text)))

end RuleSet

end FormRules
