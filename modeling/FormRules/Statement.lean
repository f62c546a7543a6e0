import FormRules.Call
import FormRules.Column

/-!
Contract: one statement on the table blueprint, and the column it defines.

Owns:
- the call and its chain of modifiers;
- which methods build an index or a constraint rather than a column;
- the attributes of the defined column, each by its own rule of precedence.

Does not own: the effect of a constraint on a column defined earlier.
-/

namespace FormRules

open FormRules.Text

/-- Methods that build an index or a constraint. -/
def constraintMethods : List String :=
  ["foreign", "unique", "index", "primary", "fulltext", "spatialindex", "dropcolumn",
   "dropforeign", "dropindex", "dropunique", "dropprimary", "renamecolumn", "renameindex"]

structure Statement where
  call : Call
  modifiers : List Call := []
deriving DecidableEq, Repr

namespace Statement

/-- The first argument, where it is a literal text. -/
def target? (statement : Statement) : Option String :=
  statement.call.text? 0

/-- The last modifier with the given name. -/
def modifier? (statement : Statement) (name : String) : Option Call :=
  (statement.modifiers.filter fun modifier => modifier.isNamed name).getLast?

def hasModifier (statement : Statement) (name : String) : Bool :=
  statement.modifiers.any fun modifier => modifier.isNamed name

/-- The literal text that the last modifier with the given name starts with. -/
def modifierText? (statement : Statement) (name : String) : Option String :=
  (statement.modifier? name).bind fun modifier => modifier.text? 0

def isConstraint (statement : Statement) : Bool :=
  constraintMethods.any fun method => statement.call.isNamed method

/-- The number of the first length modifier that has one, or else the second
argument of the call. -/
def length? (statement : Statement) : Option UInt32 :=
  ((statement.modifiers.filter fun modifier =>
      modifier.isNamed "length" || modifier.isNamed "maxLength").findSome?
    fun modifier => modifier.word32? 0 "length").or
  (statement.call.word32? 1 "length")

/-- The last nullable modifier decides. -/
def nullable (statement : Statement) : Bool :=
  (statement.modifier? "nullable").any Call.flag

/-- The table of the last foreign modifier, with the column of the last
references modifier. -/
def foreign? (statement : Statement) : Option ForeignKey :=
  (statement.modifierText? "foreign").map fun table =>
    ⟨table, statement.modifierText? "references"⟩

/-- The column the statement defines: none for a constraint, and none without
a literal name. -/
def column? (statement : Statement) : Option Column :=
  if statement.isConstraint then none
  else
    statement.target?.map fun name =>
      let type := ColumnType.ofMethod statement.call.name
      { name, type
        length := if type = .string then statement.length? else none
        nullable := statement.nullable
        unique := statement.hasModifier "unique"
        foreign := statement.foreign? }

end Statement

end FormRules
