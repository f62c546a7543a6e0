import FormRules.Command.Inspect
import FormRules.Json.Record
import FormRules.Proofs.Json.Value
import FormRules.Proofs.Request.ClassTokens
import FormRules.Proofs.RuleSet
import FormRules.Request.File

/-!
Contract: every form that the rules of a table are put out in carries the same
rules.

Owns:
- the rows of a rule set: its columns in order, each with the texts of its rules;
- the reader of rows from the tokens of an array, and the one from a JSON object;
- both readers give the rows back, whatever the columns are called.

Does not own: which rules a column has.

The literals of the array and those of the JSON document are escaped by
different rules, so neither text is compared with the other: each is read by its
own grammar, and both readings end in the rows.
-/

namespace FormRules

/-- The columns of a rule set in order, each with the texts of its rules. -/
def RuleSet.rows (set : RuleSet) : List (String × List String) :=
  set.entries.map fun entry => (entry.1, entry.2.map Rule.text)

/-! ## Rows of an array -/

namespace Token

/-- The literals of a list behind its opening bracket, and what is behind the
closing one.  There may be a comma behind the last literal. -/
def readTexts : List Token.Kind → Option (List String × List Token.Kind)
  | .closeBracket :: rest => some ([], rest)
  | .text value :: .closeBracket :: rest => some ([value], rest)
  | .text value :: .comma :: rest =>
      (readTexts rest).map fun (values, after) => (value :: values, after)
  | _ => none

theorem length_of_readTexts {kinds rest : List Token.Kind} {values : List String}
    (read : readTexts kinds = some (values, rest)) : rest.length < kinds.length := by
  fun_induction readTexts kinds generalizing values rest with
  | case1 | case2 =>
      cases read
      simp only [List.length_cons]
      omega
  | case3 value tail inductionHypothesis =>
      obtain ⟨⟨more, after⟩, readTail, same⟩ := Option.map_eq_some_iff.1 read
      cases same
      have := inductionHypothesis readTail
      simp only [List.length_cons]
      omega
  | case4 => cases read

/-- The rows of an array behind its opening bracket, and what is behind the
closing one.  There may be a comma behind the last row. -/
def readRows (kinds : List Token.Kind) :
    Option (List (String × List String) × List Token.Kind) :=
  match kinds with
  | .closeBracket :: rest => some ([], rest)
  | .text column :: .other '=' :: .other '>' :: .openBracket :: values =>
      match _read : readTexts values with
      | some (texts, .closeBracket :: rest) => some ([(column, texts)], rest)
      | some (texts, .comma :: rest) =>
          (readRows rest).map fun (rows, after) => ((column, texts) :: rows, after)
      | _ => none
  | _ => none
termination_by kinds.length
decreasing_by
  have := length_of_readTexts _read
  simp only [List.length_cons] at this ⊢
  omega

/-- The rows that a whole token list is an array of. -/
def arrayRows? : List Token.Kind → Option (List (String × List String))
  | .openBracket :: behind =>
      match readRows behind with
      | some (rows, []) => some rows
      | _ => none
  | _ => none

end Token

namespace RuleSet

open FormRules.Token (readTexts readRows arrayRows?)

theorem readTexts_rules (rules : List Rule) (rest : List Token.Kind) :
    readTexts ([Token.Kind.comma].intercalate (rules.map fun rule => [.text rule.text]) ++
      .closeBracket :: rest) = some (rules.map Rule.text, rest) := by
  induction rules with
  | nil => rfl
  | cons first more inductionHypothesis =>
      cases more with
      | nil => rfl
      | cons second others =>
          rw [List.map_cons] at inductionHypothesis
          rw [List.map_cons, List.map_cons, List.intercalate_cons_cons]
          simp only [List.cons_append, List.nil_append]
          change (readTexts _).map _ = _
          rw [inductionHypothesis]
          rfl

theorem entryKinds_append (entry : String × List Rule) (rest : List Token.Kind) :
    entryKinds entry ++ rest =
      .text entry.1 :: .other '=' :: .other '>' :: .openBracket ::
        ([Token.Kind.comma].intercalate (entry.2.map fun rule => [.text rule.text]) ++
          .closeBracket :: rest) := by
  rw [entryKinds]
  simp only [List.cons_append, List.append_assoc, List.nil_append]

theorem readRows_last (entry : String × List Rule) (rest : List Token.Kind) :
    readRows (entryKinds entry ++ .closeBracket :: rest) =
      some ([(entry.1, entry.2.map Rule.text)], rest) := by
  have rules := readTexts_rules entry.2 (.closeBracket :: rest)
  rw [entryKinds_append, readRows]
  split
  next read =>
    rw [rules] at read
    cases read
    rfl
  next read =>
    rw [rules] at read
    cases read
  next none _ => exact absurd rules (none _ _)

theorem readRows_next (entry : String × List Rule) (rest : List Token.Kind) :
    readRows (entryKinds entry ++ .comma :: rest) =
      (readRows rest).map fun (rows, after) =>
        ((entry.1, entry.2.map Rule.text) :: rows, after) := by
  have rules := readTexts_rules entry.2 (.comma :: rest)
  rw [entryKinds_append, readRows]
  split
  next read =>
    rw [rules] at read
    cases read
  next read =>
    rw [rules] at read
    cases read
    rfl
  next _ none => exact absurd rules (none _ _)

/-- Entries with commas between them, and any commas behind, are read as rows. -/
theorem readRows_entries {entries : List (String × List Rule)} (filled : entries ≠ [])
    (commaBehind : Bool) (rest : List Token.Kind) :
    readRows ([Token.Kind.comma].intercalate (entries.map entryKinds) ++
      ((if commaBehind then [.comma] else []) ++ .closeBracket :: rest)) =
      some (entries.map fun entry => (entry.1, entry.2.map Rule.text), rest) := by
  induction entries with
  | nil => exact absurd rfl filled
  | cons first more inductionHypothesis =>
      cases more with
      | nil =>
          rw [List.map_singleton, List.intercalate_singleton]
          cases commaBehind with
          | false => exact readRows_last first rest
          | true =>
              simp only [if_true, List.singleton_append]
              rw [readRows_next, readRows]
              rfl
      | cons second others =>
          have further := inductionHypothesis (List.cons_ne_nil _ _)
          rw [List.map_cons] at further
          rw [List.map_cons, List.map_cons, List.intercalate_cons_cons, List.append_assoc,
            List.append_assoc, List.singleton_append, readRows_next, further]
          rfl

/-- The text of an array is read as the rows, in any layout. -/
theorem arrayRows?_arrayText (set : RuleSet) (layout : Layout) :
    arrayRows? ((Token.tokenize (set.arrayText layout)).map Token.kind) = some set.rows := by
  rw [Token.map_kind_tokenize]
  have ended := Token.kinds_nil
  by_cases empty : set.entries = []
  · have scanned := kinds_emptyArrayText empty layout []
    rw [List.append_nil, ended] at scanned
    rw [scanned, arrayRows?, readRows, rows, empty]
    rfl
  · have scanned := kinds_filledArrayText empty layout []
    rw [List.append_nil, ended] at scanned
    rw [scanned, arrayRows?, readRows_entries empty]
    rfl

end RuleSet

/-! ## Rows of a JSON object -/

/-- The rows that an object is: its members in order, each an array of texts. -/
def Json.rows? : Json → Option (List (String × List String))
  | .object members =>
      members.mapM fun member =>
        (listOf Json.string? member.2).map fun texts => (member.1, texts)
  | _ => none

namespace RuleSet

theorem rows?_toJson (set : RuleSet) : set.toJson.rows? = some set.rows := by
  have texts : ∀ rules : List Rule,
      Json.listOf Json.string? (.array (rules.map fun rule => .string rule.text)) =
        some (rules.map Rule.text) := by
    intro rules
    rw [Json.listOf, Json.array?, Option.bind_some, List.mapM_map]
    exact List.mapM_pure
  rw [toJson, Json.rows?, List.mapM_map]
  simp only [Function.comp_def, texts, Option.map_some]
  exact List.mapM_pure

theorem readsBack_toJson (set : RuleSet) : set.toJson.ReadsBack := by
  refine Json.readsBack_object fun member inMembers => ?_
  obtain ⟨entry, _, rfl⟩ := List.mem_map.1 inMembers
  refine Json.readsBack_array fun item inItems => ?_
  obtain ⟨rule, _, rfl⟩ := List.mem_map.1 inItems
  exact Json.readsBack_string rule.text

/-- The columns that have rules, in the order of the table. -/
theorem sublist_columns_ofTable (table : Table) (dropUnmapped : Bool) :
    ((ofTable table dropUnmapped).rows.map Prod.fst).Sublist (table.columns.map Column.name) := by
  have columns : (ofTable table dropUnmapped).rows.map Prod.fst =
      (ofTable table dropUnmapped).entries.map Prod.fst := by
    simp only [rows, List.map_map, Function.comp_def]
  rw [columns, names_ofTable]
  exact List.filter_sublist.map Column.name

end RuleSet

/-! ## The forms of a table -/

theorem Json.parse?_pretty_line {value : Json} (readsBack : value.ReadsBack) :
    parse? (value.pretty ++ "\n") = some value := by
  have lineFeed : "\n".toList = ['\n'] := rfl
  apply parse?_pretty_append readsBack
  rw [lineFeed, List.forall_mem_singleton]
  rfl

namespace Request

/-- The document is read back as its three members. -/
theorem parse?_documentText (request : Request) :
    Json.parse? request.documentText = some request.document := by
  refine Json.parse?_pretty_line (Json.readsBack_object ?_)
  simp only [List.forall_mem_cons]
  exact ⟨Json.readsBack_string _, Json.readsBack_string _,
    RuleSet.readsBack_toJson request.rules, List.forall_mem_nil _⟩

/-- What the inspection of a migration prints is read back as the rules of its
table. -/
theorem parse?_output {settings : Settings} {table : Table} {tree : FileTree}
    {path text : String} (read : tree.readText path = .ok text)
    (extracted : Extraction.ofSource settings.skip text = .table table) (colours : Bool) :
    Json.parse? (Inspect.execute colours true tree settings path).output =
      some (RuleSet.ofTable table settings.dropUnmapped).toJson := by
  have output : (Inspect.execute colours true tree settings path).output =
      (RuleSet.ofTable table settings.dropUnmapped).toJson.pretty ++ "\n" := by
    simp only [Inspect.execute, read, extracted]
    rfl
  rw [output]
  exact Json.parse?_pretty_line (RuleSet.readsBack_toJson _)

/-- The array of the class, in any layout, has the rows of the table, and so has
the object under `rules` in the JSON document, which names the class and the
table as well.  The same object is what the inspection of a migration of the
table prints.  No column comes twice, so no member of the object is lost to a
later one of the same name. -/
theorem formats_agree (settings : Settings) (table : Table) (layout : Layout) :
    let request := ofTable settings table
    Token.arrayRows? ((Token.tokenize (request.rules.arrayText layout)).map Token.kind) =
      some request.rules.rows ∧
    (request.rules.rows.map Prod.fst).Nodup ∧
    ∃ rules, rules.rows? = some request.rules.rows ∧
      Json.parse? request.documentText =
        some (.object
          [("class", .string (Naming.requestName table.name)), ("table", .string table.name),
           ("rules", rules)]) ∧
      ∀ colours tree path text, FileTree.readText tree path = .ok text →
        Extraction.ofSource settings.skip text = .table table →
        Json.parse? (Inspect.execute colours true tree settings path).output = some rules := by
  intro request
  refine ⟨RuleSet.arrayRows?_arrayText request.rules layout, ?_, request.rules.toJson,
    RuleSet.rows?_toJson request.rules, parse?_documentText request, ?_⟩
  · exact (RuleSet.sublist_columns_ofTable table settings.dropUnmapped).nodup table.distinct
  · intro colours tree path text read extracted
    exact parse?_output read extracted colours

/-- A migration whose column names hold quotes, backslashes and a control
character. -/
theorem formats_agree_hostile_names :
    let settings : Settings := {}
    let source := "Schema::create('user_groups', function ($table) \x7b
      $table->string('a\\'\\\\', 9); $table->date('\"\x01é')->nullable(); \x7d);"
    let tree : FileTree := { entries := [(["m.php"], .file (.text source))] }
    ∃ table, Extraction.ofSource settings.skip source = .table table ∧
      tree.readText "m.php" = .ok source ∧
      let rows := [("a\x27\\", ["string", "max:9", "required"]), ("\"\x01é", ["date"])]
      (RuleSet.ofTable table settings.dropUnmapped).rows = rows ∧
      Token.arrayRows? ((Token.tokenize
        ((ofTable settings table).rules.arrayText {})).map Token.kind) = some rows ∧
      ∃ rules, rules.rows? = some rows ∧
        Json.parse? (ofTable settings table).documentText =
          some (.object
            [("class", .string "UserGroupRequest"), ("table", .string "user_groups"),
             ("rules", rules)]) ∧
        Json.parse? (Inspect.execute false true tree settings "m.php").output = some rules := by
  intro settings source tree
  let table : Table :=
    ⟨"user_groups", [⟨"a\x27\\", .string, some 9, false, false, none⟩,
      ⟨"\"\x01é", .date, none, true, false, none⟩], by decide⟩
  obtain ⟨extracted, given, sameRows, className⟩ :
      Extraction.ofSource settings.skip source = .table table ∧
        (tree.readText "m.php").toOption = some source ∧
        (RuleSet.ofTable table settings.dropUnmapped).rows =
          [("a\x27\\", ["string", "max:9", "required"]), ("\"\x01é", ["date"])] ∧
        Naming.requestName "user_groups" = "UserGroupRequest" := by
    decide +kernel
  have read : tree.readText "m.php" = .ok source := by
    cases result : tree.readText "m.php" with
    | error fault =>
        rw [result] at given
        cases given
    | ok text =>
        rw [result] at given
        exact congrArg Except.ok (Option.some.inj given)
  have rowsOf : (ofTable settings table).rules.rows =
      (RuleSet.ofTable table settings.dropUnmapped).rows := rfl
  obtain ⟨array, _, rules, object, document, inspected⟩ := formats_agree settings table {}
  rw [rowsOf, sameRows] at array object
  refine ⟨table, extracted, read, sameRows, array, rules, object, ?_,
    inspected false tree "m.php" source read extracted⟩
  rw [document, className]

end Request

end FormRules
