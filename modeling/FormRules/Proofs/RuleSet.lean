import FormRules.Proofs.Table
import FormRules.RuleSet
import Mathlib.Data.List.Forall2

/-!
Contract: which rules a column calls for, and which entries a table has.

Owns:
- the rules that the attributes of a column call for, and their fixed order;
- the columns that have an entry, under either policy on unknown types;
- the entries of a table, one by one, and the lookup of an entry by its column;
- what the stricter policy leaves of the entries.

Does not own: the texts that rules are written as.

The list of a column is described by its members and by their order.  As no two
rules of one column have the same place in that order, there is only one such list.
-/

namespace FormRules

/-- The place of a rule among the rules of a column. -/
def Rule.place : Rule → Nat
  | .string | .integer | .numeric | .boolean | .date => 0
  | .max _ => 1
  | .required => 2
  | .uniqueIn _ _ => 3
  | .existsIn _ _ => 4

/-- Both the table and the column are given, and neither is empty. -/
def ForeignKey.isComplete (key : ForeignKey) : Bool :=
  key.table != "" && key.column.any fun column => column != ""

namespace Column

/-- The column of the named table has an attribute that calls for the rule. -/
def CallsFor (table : String) (column : Column) : Rule → Prop
  | .string => column.type ∈ [.string, .text]
  | .integer => column.type ∈ [.integer, .bigInteger, .smallInteger, .tinyInteger]
  | .numeric => column.type ∈ [.decimal, .float]
  | .boolean => column.type = .boolean
  | .date => column.type ∈ [.date, .dateTime, .timestamp]
  | .max length => column.type = .string ∧ column.length = some length
  | .required => column.nullable = false
  | .uniqueIn inTable name => column.unique = true ∧ inTable = table ∧ name = column.name
  | .existsIn inTable name =>
      ∃ key ∈ column.foreign, key.isComplete = true ∧ key.table = inTable ∧ key.column = some name

/-- Columns of a known type have an entry.  If columns of unknown type are not
dropped, one of them has an entry if another attribute calls for a rule. -/
def hasEntry (dropUnmapped : Bool) (column : Column) : Bool :=
  !column.type.isUnknown ||
    (!dropUnmapped &&
      (!column.nullable || column.unique || column.foreign.any ForeignKey.isComplete))

/-- The rules are those that the column calls for, each of them once and in order. -/
structure IsRuledBy (table : String) (column : Column) (rules : List Rule) : Prop where
  nonempty : rules ≠ []
  mem_iff : ∀ rule, rule ∈ rules ↔ column.CallsFor table rule
  ordered : rules.Pairwise fun first second => first.place < second.place

end Column

/-! ## Rules of a type -/

theorem ColumnType.rules_eq_nil_iff (type : ColumnType) (length : Option UInt32) :
    type.rules length = [] ↔ type.isUnknown = true := by
  cases type <;> simp [rules, rule?, isUnknown]

theorem ColumnType.ordered_rules (type : ColumnType) (length : Option UInt32) :
    (type.rules length).Pairwise fun first second => first.place < second.place := by
  cases type <;> cases length <;> simp [rules, rule?, Rule.place]

theorem ColumnType.mem_rules_iff {type : ColumnType} {length : Option UInt32} {rule : Rule} :
    rule ∈ type.rules length ↔
      type.rule? = some rule ∨ type = .string ∧ ∃ bound ∈ length, rule = .max bound := by
  rw [rules, List.mem_append, Option.mem_toList]
  apply or_congr_right
  by_cases isString : type = .string
  · simp [isString, eq_comm]
  · simp [isString]

theorem Column.rule?_eq_some_iff (table : String) (column : Column) (rule : Rule) :
    column.type.rule? = some rule ↔ rule.place = 0 ∧ column.CallsFor table rule := by
  cases typed : column.type <;> cases rule <;>
    simp [ColumnType.rule?, Rule.place, CallsFor, typed]

/-- The type and the length call for the rules of the first two places. -/
theorem Column.mem_rules_type_iff (table : String) (column : Column) (rule : Rule) :
    rule ∈ column.type.rules column.length ↔ rule.place < 2 ∧ column.CallsFor table rule := by
  rw [ColumnType.mem_rules_iff, rule?_eq_some_iff table]
  cases rule <;> simp [Rule.place, CallsFor]

/-! ## Rules of the other attributes -/

theorem ForeignKey.target?_of_isComplete {key : ForeignKey} (complete : key.isComplete = true) :
    ∃ name, key.column = some name ∧ key.target? = some (key.table, name) := by
  obtain ⟨table, column⟩ := key
  simp only [isComplete, Bool.and_eq_true, bne_iff_ne, Option.any_eq_true] at complete
  obtain ⟨hasTable, name, rfl, hasColumn⟩ := complete
  exact ⟨name, rfl, if_neg (not_or.2 ⟨hasTable, hasColumn⟩)⟩

theorem ForeignKey.target?_of_not_isComplete {key : ForeignKey}
    (incomplete : key.isComplete = false) :
    key.target? = none := by
  obtain ⟨table, column⟩ := key
  cases column with
  | none => rfl
  | some name =>
      have missing : table = "" ∨ name = "" := by
        simpa [isComplete, or_iff_not_imp_left] using incomplete
      exact if_pos missing

namespace Column

theorem target?_eq_some_iff {column : Column} {table name : String} :
    column.foreign.bind ForeignKey.target? = some (table, name) ↔
      ∃ key ∈ column.foreign,
        key.isComplete = true ∧ key.table = table ∧ key.column = some name := by
  rw [Option.bind_eq_some_iff]
  apply exists_congr
  intro key
  apply and_congr_right
  intro _
  cases complete : key.isComplete with
  | true =>
      obtain ⟨target, given, found⟩ := ForeignKey.target?_of_isComplete complete
      simp [found, given]
  | false => simp [ForeignKey.target?_of_not_isComplete complete]

theorem target?_eq_none_iff {column : Column} :
    column.foreign.bind ForeignKey.target? = none ↔
      column.foreign.any ForeignKey.isComplete = false := by
  cases column.foreign with
  | none => simp
  | some key =>
      cases complete : key.isComplete with
      | true =>
          obtain ⟨target, _, found⟩ := ForeignKey.target?_of_isComplete complete
          simp [found, complete]
      | false => simp [ForeignKey.target?_of_not_isComplete complete, complete]

theorem attributeRules_eq_nil_iff (table : String) (column : Column) :
    column.attributeRules table = [] ↔
      column.nullable = true ∧ column.unique = false ∧
        column.foreign.any ForeignKey.isComplete = false := by
  rw [← target?_eq_none_iff]
  unfold attributeRules
  cases column.nullable <;> cases column.unique <;>
    cases column.foreign.bind ForeignKey.target? <;> simp

theorem ordered_attributeRules (table : String) (column : Column) :
    (column.attributeRules table).Pairwise fun first second => first.place < second.place := by
  unfold attributeRules
  cases column.nullable <;> cases column.unique <;>
    cases column.foreign.bind ForeignKey.target? <;> simp [Rule.place]

/-- The other attributes call for the rules of the last three places. -/
theorem mem_attributeRules_iff (table : String) (column : Column) (rule : Rule) :
    rule ∈ column.attributeRules table ↔ 2 ≤ rule.place ∧ column.CallsFor table rule := by
  have reference (inTable name : String) :
      column.CallsFor table (.existsIn inTable name) ↔
        some (inTable, name) = column.foreign.bind ForeignKey.target? :=
    target?_eq_some_iff.symm.trans eq_comm
  unfold attributeRules
  cases rule with
  | existsIn inTable name =>
      rw [reference]
      cases column.foreign.bind ForeignKey.target? <;> simp [Rule.place, Prod.ext_iff]
  | _ =>
      cases column.foreign.bind ForeignKey.target? <;>
        cases nullable : column.nullable <;> cases unique : column.unique <;>
          simp [Rule.place, CallsFor, nullable, unique]

/-! ## All rules of a column -/

/-- There is only one list of the rules that a column calls for. -/
theorem IsRuledBy.unique {table : String} {column : Column} {left right : List Rule}
    (isLeft : column.IsRuledBy table left) (isRight : column.IsRuledBy table right) :
    left = right := by
  have leftNodup : left.Nodup := isLeft.ordered.imp fun less equal => by simp [equal] at less
  have rightNodup : right.Nodup := isRight.ordered.imp fun less equal => by simp [equal] at less
  have permuted : left.Perm right :=
    (List.perm_ext_iff_of_nodup leftNodup rightNodup).2 fun rule =>
      (isLeft.mem_iff rule).trans (isRight.mem_iff rule).symm
  exact permuted.eq_of_pairwise
    (fun first second _ _ less greater => absurd less (Nat.lt_asymm greater))
    isLeft.ordered isRight.ordered

theorem hasEntry_eq_false_iff (dropUnmapped : Bool) (table : String) (column : Column) :
    column.hasEntry dropUnmapped = false ↔
      column.type.rules column.length = [] ∧
        (dropUnmapped = true ∨ column.attributeRules table = []) := by
  rw [ColumnType.rules_eq_nil_iff, attributeRules_eq_nil_iff, hasEntry]
  cases dropUnmapped <;> simp [and_assoc]

theorem hasEntry_iff (dropUnmapped : Bool) (table : String) (column : Column) :
    column.hasEntry dropUnmapped = true ↔
      column.type.rules column.length ≠ [] ∨
        dropUnmapped = false ∧ column.attributeRules table ≠ [] := by
  rw [← Bool.not_eq_false, hasEntry_eq_false_iff dropUnmapped table, not_and_or, not_or,
    Bool.not_eq_true]

theorem rules?_eq_none (table : String) {dropUnmapped : Bool} {column : Column}
    (entry : column.hasEntry dropUnmapped = false) :
    column.rules? table dropUnmapped = none := by
  obtain ⟨untyped, dropped | unruled⟩ := (hasEntry_eq_false_iff dropUnmapped table column).1 entry
  · simp [rules?, untyped, dropped]
  · simp [rules?, untyped, unruled]

theorem isRuledBy_append {dropUnmapped : Bool} (table : String) {column : Column}
    (entry : column.hasEntry dropUnmapped = true) :
    column.IsRuledBy table
      (column.type.rules column.length ++ column.attributeRules table) where
  nonempty := by
    rcases (hasEntry_iff dropUnmapped table column).1 entry with typed | ⟨_, attributed⟩
    · exact List.append_ne_nil_of_left_ne_nil typed _
    · exact List.append_ne_nil_of_right_ne_nil _ attributed
  mem_iff rule := by
    rw [List.mem_append, mem_rules_type_iff table, mem_attributeRules_iff, ← or_and_right]
    exact and_iff_right (Nat.lt_or_ge rule.place 2)
  ordered := by
    rw [List.pairwise_append]
    refine ⟨ColumnType.ordered_rules _ _, ordered_attributeRules table column, ?_⟩
    intro first isTypeRule second isAttributeRule
    have below := ((mem_rules_type_iff table column first).1 isTypeRule).1
    have above := ((mem_attributeRules_iff table column second).1 isAttributeRule).1
    exact Nat.lt_of_lt_of_le below above

theorem rules?_eq_some {dropUnmapped : Bool} (table : String) {column : Column}
    (entry : column.hasEntry dropUnmapped = true) :
    ∃ rules, column.rules? table dropUnmapped = some rules ∧ column.IsRuledBy table rules := by
  refine ⟨_, ?_, isRuledBy_append table entry⟩
  rcases (hasEntry_iff dropUnmapped table column).1 entry with typed | ⟨kept, attributed⟩
  · simp [rules?, typed]
  · simp [rules?, kept, attributed]

/-- The stricter policy takes the entries of unknown types away and changes no other. -/
theorem rules?_drop (table : String) (column : Column) :
    column.rules? table true =
      if column.type.isUnknown then none else column.rules? table false := by
  cases unknown : column.type.isUnknown with
  | true =>
      have noEntry : column.hasEntry true = false := by simp [hasEntry, unknown]
      simpa using rules?_eq_none table noEntry
  | false =>
      have typed : column.type.rules column.length ≠ [] := by
        simp [ne_eq, ColumnType.rules_eq_nil_iff, unknown]
      simp [rules?, typed]

end Column

/-! ## Entries of a table -/

namespace RuleSet

/-- Each column that has an entry has the next one, with its name and its rules. -/
theorem forall₂_entries (table : String) (dropUnmapped : Bool) (columns : List Column) :
    List.Forall₂
      (fun column entry => entry.1 = column.name ∧ column.IsRuledBy table entry.2)
      (columns.filter (Column.hasEntry dropUnmapped))
      (columns.filterMap fun column =>
        (column.rules? table dropUnmapped).map fun rules => (column.name, rules)) := by
  induction columns with
  | nil => exact .nil
  | cons column rest inductionHypothesis =>
      cases entry : column.hasEntry dropUnmapped with
      | false => simpa [entry, Column.rules?_eq_none table entry] using inductionHypothesis
      | true =>
          obtain ⟨rules, found, ruled⟩ := Column.rules?_eq_some table entry
          simpa [entry, found] using ⟨ruled, inductionHypothesis⟩

theorem names_ofTable (table : Table) (dropUnmapped : Bool) :
    (ofTable table dropUnmapped).entries.map Prod.fst =
      (table.columns.filter (Column.hasEntry dropUnmapped)).map Column.name := by
  have related := forall₂_entries table.name dropUnmapped table.columns
  have named := related.imp fun column entry both => both.1.symm
  rw [← List.forall₂_eq_eq_eq, List.forall₂_map_left_iff, List.forall₂_map_right_iff]
  exact named.flip.imp fun entry column same => same.symm

theorem nodup_ofTable (table : Table) (dropUnmapped : Bool) :
    ((ofTable table dropUnmapped).entries.map Prod.fst).Nodup := by
  rw [names_ofTable]
  exact table.distinct.sublist (List.filter_sublist.map Column.name)

/-- Where no two entries have one name, the first entry of a name is the only one. -/
theorem get?_eq_some_iff {set : RuleSet} (distinct : (set.entries.map Prod.fst).Nodup)
    {name : String} {rules : List Rule} :
    set.get? name = some rules ↔ (name, rules) ∈ set.entries := by
  obtain ⟨table, entries⟩ := set
  rw [get?]
  induction entries with
  | nil => simp
  | cons head rest inductionHypothesis =>
      obtain ⟨key, value⟩ := head
      obtain ⟨fresh, distinctRest⟩ := List.nodup_cons.1 distinct
      by_cases same : name = key
      · have absent : (key, rules) ∉ rest := fun member =>
          fresh (List.mem_map.2 ⟨(key, rules), member, rfl⟩)
        subst same
        simp [absent, eq_comm]
      · have other : (name == key) = false := beq_eq_false_iff_ne.2 same
        simpa [List.lookup_cons, other, same] using inductionHypothesis distinctRest

theorem get?_eq_none_iff (set : RuleSet) (name : String) :
    set.get? name = none ↔ name ∉ set.entries.map Prod.fst := by
  rw [get?, List.lookup_eq_none_iff, List.mem_map, not_exists]
  apply forall_congr'
  intro entry
  rw [bne_iff_ne, not_and]
  exact imp_congr_right fun _ => not_congr eq_comm

/-- The stricter policy leaves the entries of the columns of known type. -/
theorem entries_drop (table : Table) :
    (ofTable table true).entries =
      (ofTable table false).entries.filter fun entry =>
        (table.column? entry.1).any fun column => !column.type.isUnknown := by
  rw [ofTable, ofTable, List.filter_filterMap]
  apply List.filterMap_congr
  intro column member
  rw [Column.rules?_drop]
  cases column.rules? table.name false with
  | none => simp
  | some rules =>
      cases unknown : column.type.isUnknown <;>
        simp [Option.filter, Table.column?_of_mem member, unknown]

/-- The entries of a table are those of the columns that have one, in their order and
one each, and the rules of an entry are exactly those that its column calls for.  A
name looks up its own entry, any other name nothing.  Dropping unknown types leaves
the entries of the other types as they are. -/
theorem ofTable_exact (table : Table) (dropUnmapped : Bool) :
    (ofTable table dropUnmapped).table = table.name ∧
      List.Forall₂
        (fun column entry => entry.1 = column.name ∧ column.IsRuledBy table.name entry.2)
        (table.columns.filter (Column.hasEntry dropUnmapped))
        (ofTable table dropUnmapped).entries ∧
      ((ofTable table dropUnmapped).entries.map Prod.fst).Nodup ∧
      (∀ name rules, (ofTable table dropUnmapped).get? name = some rules ↔
        (name, rules) ∈ (ofTable table dropUnmapped).entries) ∧
      (∀ name, (ofTable table dropUnmapped).get? name = none ↔
        name ∉ (ofTable table dropUnmapped).entries.map Prod.fst) ∧
      (ofTable table true).entries =
        (ofTable table false).entries.filter fun entry =>
          (table.column? entry.1).any fun column => !column.type.isUnknown := by
  have distinct := nodup_ofTable table dropUnmapped
  refine ⟨rfl, ?entries, distinct, ?found, ?missing, ?dropped⟩
  case entries => exact forall₂_entries table.name dropUnmapped table.columns
  case found => exact fun name rules => get?_eq_some_iff distinct
  case missing => exact get?_eq_none_iff (ofTable table dropUnmapped)
  case dropped => exact entries_drop table

end RuleSet

end FormRules
