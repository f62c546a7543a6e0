import FormRules.Json

/-!
Contract: the tables of a TOML document while it is read.

Owns:
- tables with the way each came about, which decides how it may be extended;
- the effect of headers and of keys with dots.

Does not own: the text of keys and values.
-/

namespace FormRules.Toml

/-- How a table came about. -/
inductive Origin where
  /-- By its own header. -/
  | header
  /-- On the way to a table with a header. -/
  | implied
  /-- On the way of a key with dots. -/
  | dotted
deriving DecidableEq, Repr

inductive Node where
  | value (value : Json)
  | table (origin : Origin) (entries : List (String × Node))
  /-- Tables under one name, each with a header of its own. -/
  | sequence (tables : List (List (String × Node)))

/-- The entries of a table, in order of their first mention. -/
abbrev Entries := List (String × Node)

/-- The entries with one put in place of the entry of that name. -/
def Entries.put (entries : Entries) (name : String) (node : Node) : Entries :=
  if entries.any fun entry => entry.1 == name then
    entries.map fun entry => if entry.1 == name then (name, node) else entry
  else entries ++ [(name, node)]

/-- Change the table at the end of a path, making tables that are missing.
A path of headers leads through any table and through the last of a sequence;
a key with dots must not pass a table that has a header. -/
def alter (dotted : Bool) (change : Origin → Entries → Option Entries) :
    List String → Origin → Entries → Option Entries
  | [], origin, entries => change origin entries
  | name :: path, _, entries =>
      match entries.lookup name with
      | none =>
          let origin := if dotted then Origin.dotted else .implied
          (alter dotted change path origin []).map fun inner =>
            Entries.put entries name (.table origin inner)
      | some (.value _) => none
      | some (.sequence tables) =>
          match tables.getLast? with
          | none => none
          | some last =>
              (alter dotted change path .header last).map fun inner =>
                Entries.put entries name (.sequence (tables.dropLast ++ [inner]))
      | some (.table origin inner) =>
          if dotted && origin == .header then none
          else (alter dotted change path origin inner).map fun inner =>
            Entries.put entries name (.table origin inner)

/-- Add a value under a name that is free.  A key with dots adds only to
tables that such keys have made. -/
def addValue (dotted : Bool) (name : String) (value : Json) (origin : Origin)
    (entries : Entries) : Option Entries :=
  if dotted != (origin == .dotted) then none
  else if (entries.lookup name).isSome then none
  else some (Entries.put entries name (.value value))

/-- Assign a value to a key in a table. -/
def assign (key : List String) (value : Json) (entries : Entries) : Option Entries :=
  match key.getLast? with
  | none => none
  | some name =>
      alter true (addValue (1 < key.length) name value) key.dropLast .header entries

/-- Start the table of a header: a new one, or one that is only implied so
far. -/
def startTable (name : String) (entries : Entries) : Option Entries :=
  match entries.lookup name with
  | none => some (Entries.put entries name (.table .header []))
  | some (.table .implied inner) => some (Entries.put entries name (.table .header inner))
  | some _ => none

/-- Start one more table of a sequence. -/
def startElement (name : String) (entries : Entries) : Option Entries :=
  match entries.lookup name with
  | none => some (Entries.put entries name (.sequence [[]]))
  | some (.sequence tables) => some (Entries.put entries name (.sequence (tables ++ [[]])))
  | some _ => none

/-- Apply a change to the table that the last name of a header is looked up
in. -/
def atHeader (change : String → Entries → Option Entries) (path : List String)
    (entries : Entries) : Option Entries :=
  match path.getLast? with
  | none => none
  | some name => alter false (fun _ inner => change name inner) path.dropLast .header entries

mutual

/-- The value that a node stands for. -/
def Node.toJson : Node → Json
  | .value value => value
  | .table _ entries => .object (entriesJson entries)
  | .sequence tables => .array (tablesJson tables)

def entriesJson : List (String × Node) → List (String × Json)
  | [] => []
  | (name, node) :: rest => (name, node.toJson) :: entriesJson rest

def tablesJson : List (List (String × Node)) → List Json
  | [] => []
  | entries :: rest => .object (entriesJson entries) :: tablesJson rest

end

end FormRules.Toml
