import FormRules.Proofs.Request.Formats
import FormRules.Proofs.Text.Decimal

/-!
Contract: the rules of a table, read back from the array that they are written as.

Owns:
- a text cut at the first separator;
- the reader of rules from their texts, which gives back every rule whose table
  has no comma in its name;
- the reader of entries from the text of an array, in any layout.

Does not own: the table that the entries are for, which the array does not name.

An array is read in two steps.  Its rows, the columns with the texts of their rules,
are read whatever is in them.  A text is one rule only if the first comma behind
`unique:` or `exists:` is the one between the table and the column.
-/

namespace FormRules

open FormRules.Text

/-! ## Texts with separators -/

namespace Text

/-- The text before the first separator, and what is behind it if there is one. -/
def cutAt (separator : Char) (text : List Char) : List Char × Option (List Char) :=
  (text.takeWhile (· != separator), (text.dropWhile (· != separator)).tail?)

theorem cutAt_append_cons {separator : Char} {front : List Char} (absent : separator ∉ front)
    (behind : List Char) :
    cutAt separator (front ++ separator :: behind) = (front, some behind) := by
  have inside : ∀ character ∈ front, (character != separator) = true := by
    intro character member
    rw [bne_iff_ne]
    rintro rfl
    exact absent member
  have outside : ∀ next ∈ (separator :: behind).head?, (next != separator) = false := by
    intro next member
    cases member
    exact bne_self_eq_false separator
  obtain ⟨taken, left⟩ := Token.spans_of_break inside outside
  rw [cutAt, taken, left, List.tail?_cons]

end Text

/-! ## Texts of rules -/

namespace Rule

/-- The rules that are written as one word. -/
def bare : List Rule :=
  [.string, .integer, .numeric, .boolean, .date, .required]

/-- A rule on a table and a column, which have a comma between them. -/
def ofTarget? (make : String → String → Rule) (target : List Char) : Option Rule :=
  (cutAt ',' target).2.map fun column =>
    make (String.ofList (cutAt ',' target).1) (String.ofList column)

/-- The rule that a text is written for.  Numerals with leading zeros are read as well. -/
def ofText? (text : String) : Option Rule :=
  match cutAt ':' text.toList with
  | (_, none) => bare.find? fun rule => rule.text == text
  | (word, some value) =>
      if word = "max".toList then (readWord32? value).map .max
      else if word = "unique".toList then ofTarget? .uniqueIn value
      else if word = "exists".toList then ofTarget? .existsIn value
      else none

/-- The name of the table that the rule refers to, if any, has no comma in it.
That of the column may have. -/
def isLegible : Rule → Bool
  | .uniqueIn table _ | .existsIn table _ => !table.toList.contains ','
  | _ => true

theorem ofTarget?_target (make : String → String → Rule) {table : String}
    (legible : (!table.toList.contains ',') = true) (column : String) :
    ofTarget? make (table.toList ++ ',' :: column.toList) = some (make table column) := by
  have absent : ',' ∉ table.toList := by simpa using legible
  rw [ofTarget?, cutAt_append_cons absent, Option.map_some, String.ofList_toList,
    String.ofList_toList]

theorem ofText?_text {rule : Rule} (legible : rule.isLegible = true) :
    ofText? rule.text = some rule := by
  cases rule with
  | max length =>
      have written : (Rule.max length).text.toList =
          "max".toList ++ ':' :: (decimal length.toNat).toList := by
        rw [text, String.toList_append]
        rfl
      rw [ofText?, written, cutAt_append_cons (by decide)]
      change (readWord32? _).map Rule.max = _
      rw [readWord32?_decimal, Option.map_some]
  | uniqueIn table column =>
      have written : (Rule.uniqueIn table column).text.toList =
          "unique".toList ++ ':' :: (table.toList ++ ',' :: column.toList) := by
        simp only [text, String.toList_append, List.append_assoc]
        rfl
      rw [ofText?, written, cutAt_append_cons (by decide)]
      exact ofTarget?_target .uniqueIn legible column
  | existsIn table column =>
      have written : (Rule.existsIn table column).text.toList =
          "exists".toList ++ ':' :: (table.toList ++ ',' :: column.toList) := by
        simp only [text, String.toList_append, List.append_assoc]
        rfl
      rw [ofText?, written, cutAt_append_cons (by decide)]
      exact ofTarget?_target .existsIn legible column
  | _ => decide

theorem text_inj {left right : Rule} (leftLegible : left.isLegible = true)
    (rightLegible : right.isLegible = true) : left.text = right.text ↔ left = right := by
  constructor
  · intro same
    have read := ofText?_text leftLegible
    rw [same, ofText?_text rightLegible] at read
    exact (Option.some.inj read).symm
  · exact congrArg text

end Rule

/-! ## Texts of rule sets -/

namespace RuleSet

def isLegible (set : RuleSet) : Bool :=
  set.entries.all fun entry => entry.2.all Rule.isLegible

/-- The entry that a row is written for. -/
def entryOf? (row : String × List String) : Option (String × List Rule) :=
  (row.2.mapM Rule.ofText?).map fun rules => (row.1, rules)

/-- The entries that the text of an array is written for. -/
def entries? (text : String) : Option (List (String × List Rule)) :=
  (Token.arrayRows? ((Token.tokenize text).map Token.kind)).bind fun rows => rows.mapM entryOf?

/-- A list is read back from what its items are written as, if each of them is. -/
theorem mapM_map_of_readsBack {α β : Type} {write : α → β} {read : β → Option α}
    {items : List α} (readsBack : ∀ item ∈ items, read (write item) = some item) :
    (items.map write).mapM read = some items := by
  induction items with
  | nil => rfl
  | cons first more inductionHypothesis =>
      have readMore := inductionHypothesis fun item member =>
        readsBack item (List.mem_cons_of_mem first member)
      rw [List.map_cons, List.mapM_cons, readsBack first List.mem_cons_self, readMore]
      rfl

/-- In any layout the text of an array is read back as the entries. -/
theorem entries?_arrayText {set : RuleSet} (legible : set.isLegible = true) (layout : Layout) :
    entries? (set.arrayText layout) = some set.entries := by
  rw [entries?, arrayRows?_arrayText, Option.bind_some, rows]
  refine mapM_map_of_readsBack fun entry inEntries => ?_
  have entryLegible := List.all_eq_true.1 (List.all_eq_true.1 legible entry inEntries)
  have rules : (entry.2.map Rule.text).mapM Rule.ofText? = some entry.2 :=
    mapM_map_of_readsBack fun rule inRules => Rule.ofText?_text (entryLegible rule inRules)
  rw [entryOf?, rules, Option.map_some]

theorem entries_eq_of_arrayText_eq {first second : RuleSet} (firstLegible : first.isLegible = true)
    (secondLegible : second.isLegible = true) {layout other : Layout}
    (same : first.arrayText layout = second.arrayText other) : first.entries = second.entries := by
  have read := entries?_arrayText firstLegible layout
  rw [same, entries?_arrayText secondLegible other] at read
  exact (Option.some.inj read).symm

theorem arrayText_congr {first second : RuleSet} (same : first.entries = second.entries)
    (layout : Layout) : first.arrayText layout = second.arrayText layout := by
  rw [arrayText, arrayText, same]

/-- Two rule sets are written as one text exactly if they have the same columns with
the same rules in the same order, whatever the columns are called and however the
array is laid out.  Two rules are written as one text only if they are the same rule.
Both hold as long as no rule refers to a table with a comma in its name. -/
theorem arrayText_eq_iff :
    (∀ first second : RuleSet, first.isLegible = true → second.isLegible = true →
      ∀ layout, first.arrayText layout = second.arrayText layout ↔
        first.entries = second.entries) ∧
    ∀ left right : Rule, left.isLegible = true → right.isLegible = true →
      (left.text = right.text ↔ left = right) := by
  refine ⟨fun first second firstLegible secondLegible layout => ⟨?_, ?_⟩, ?_⟩
  · exact entries_eq_of_arrayText_eq firstLegible secondLegible
  · exact fun same => arrayText_congr same layout
  · exact fun left right => Rule.text_inj

/-- Names that imitate the end of a literal, of a list and of an entry, in an array
without a comma behind the last entry and indented by tabs. -/
theorem arrayText_eq_iff_imitations :
    let layout : Layout := { useSpaces := false, trailingCommas := false }
    let oneRule : RuleSet := ⟨"t", [("a", [.uniqueIn "x" "\x27, \x27required"])]⟩
    let twoRules : RuleSet := ⟨"t", [("a", [.uniqueIn "x" "", .required])]⟩
    let oneEntry : RuleSet := ⟨"t", [("a\x27 => [],\n\t\x27b", [.max 7])]⟩
    let twoEntries : RuleSet := ⟨"t", [("a", []), ("b", [.max 7])]⟩
    let left : Rule := .existsIn "x:" "y,z"
    let right : Rule := .existsIn "x" ":,y,z"
    (oneRule.isLegible = true ∧ twoRules.isLegible = true) ∧
    (oneEntry.isLegible = true ∧ twoEntries.isLegible = true) ∧
    (left.isLegible = true ∧ right.isLegible = true) ∧
    oneRule.arrayText layout ≠ twoRules.arrayText layout ∧
    oneEntry.arrayText layout ≠ twoEntries.arrayText layout ∧
    left.text ≠ right.text := by
  intro layout oneRule twoRules oneEntry twoEntries left right
  have rulesLegible : oneRule.isLegible = true ∧ twoRules.isLegible = true := by decide
  have entriesLegible : oneEntry.isLegible = true ∧ twoEntries.isLegible = true := by decide
  have legible : left.isLegible = true ∧ right.isLegible = true := by decide
  obtain ⟨sets, rules⟩ := arrayText_eq_iff
  refine ⟨rulesLegible, entriesLegible, legible, ?oneOrTwoRules, ?oneOrTwoEntries, ?oneOrOther⟩
  case oneOrTwoRules =>
    rw [Ne, sets _ _ rulesLegible.1 rulesLegible.2]
    decide
  case oneOrTwoEntries =>
    rw [Ne, sets _ _ entriesLegible.1 entriesLegible.2]
    decide
  case oneOrOther =>
    rw [Ne, rules _ _ legible.1 legible.2]
    decide

end RuleSet

/-- A comma in the name of a table can be taken for the one behind it. -/
example : (Rule.uniqueIn "a" "b,c").text = (Rule.uniqueIn "a,b" "c").text := by
  decide

end FormRules
