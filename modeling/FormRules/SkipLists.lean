/-!
Contract: the tables and columns that no rules are generated for.

Owns: the two sets of names, kept sorted and without duplicates, and their
defaults.

Does not own: the tables and columns that the sets are applied to.
-/

namespace FormRules

/-- Put a name in its place in a sorted list without duplicates. -/
def insertName (name : String) : List String → List String
  | [] => [name]
  | head :: rest =>
      if name < head then name :: head :: rest
      else if name = head then head :: rest
      else head :: insertName name rest

/-- The names in order of their code points, each once. -/
def nameSet (names : List String) : List String :=
  names.foldl (fun set name => insertName name set) []

theorem mem_insertName {name other : String} {names : List String} :
    other ∈ insertName name names ↔ other = name ∨ other ∈ names := by
  induction names with
  | nil => simp [insertName]
  | cons head rest inductionHypothesis =>
      unfold insertName
      split
      · simp
      · split
        next same => simp [same]
        next =>
          simp only [List.mem_cons, inductionHypothesis]
          exact or_left_comm

/-- Bookkeeping tables of the framework. -/
def defaultSkippedTables : List String :=
  ["failed_jobs", "jobs", "migrations", "password_resets", "personal_access_tokens", "sessions"]

/-- Columns that the framework fills in by itself. -/
def defaultSkippedColumns : List String :=
  ["created_at", "deleted_at", "email_verified_at", "id", "updated_at"]

structure SkipLists where
  tables : List String := defaultSkippedTables
  columns : List String := defaultSkippedColumns
deriving DecidableEq, Repr

namespace SkipLists

/-- Lists that skip nothing. -/
def none : SkipLists := ⟨[], []⟩

def withTable (skip : SkipLists) (table : String) : SkipLists :=
  { skip with tables := insertName table skip.tables }

def withColumn (skip : SkipLists) (column : String) : SkipLists :=
  { skip with columns := insertName column skip.columns }

def skipsTable (skip : SkipLists) (table : String) : Bool :=
  skip.tables.contains table

def skipsColumn (skip : SkipLists) (column : String) : Bool :=
  skip.columns.contains column

end SkipLists

end FormRules
