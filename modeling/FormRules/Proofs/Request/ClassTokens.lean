import FormRules.Proofs.Text.Split
import FormRules.Proofs.Token.Kinds
import FormRules.Request.ClassText

/-!
Contract: the class text of a request, read back by the scanner.

Owns:
- the tokens of the class: the skeleton with its names, and the array of
  literals in it;
- the scan of the text into exactly these tokens, whatever the names and rules
  in the literals are made of.

Does not own: what a class means once it is loaded.
-/

namespace FormRules

open FormRules.Text
open FormRules.Token (kinds breaksWord kinds_piece)

/-! ## The tokens of a class -/

/-- The literal that a token holds. -/
def Token.Kind.text? : Token.Kind → Option String
  | .text value => some value
  | _ => none

/-- A qualified name: identifiers with backslashes between them. -/
def Token.qualifiedName (segments : List String) : List Token.Kind :=
  [Token.Kind.other '\\'].intercalate (segments.map fun segment => [.identifier segment])

namespace RuleSet

/-- A column and its rules: one literal each. -/
def entryKinds (entry : String × List Rule) : List Token.Kind :=
  .text entry.1 :: .other '=' :: .other '>' :: .openBracket ::
    ([Token.Kind.comma].intercalate (entry.2.map fun rule => [.text rule.text]) ++
      [.closeBracket])

def arrayKinds (set : RuleSet) : List Token.Kind :=
  .openBracket :: (set.entries.flatMap (fun entry => entryKinds entry ++ [.comma]) ++
    [.closeBracket])

end RuleSet

namespace Request

/-- The parts of the namespace: those of the root, and the class. -/
def namespaceSegments (request : Request) : List String :=
  (if request.rootNamespace = "" then [] else splitAt '\\' request.rootNamespace) ++
    [request.className]

def methodKinds (name : String) (result : List Token.Kind) : List Token.Kind :=
  [.identifier "public", .identifier "function", .identifier name, .openParen, .closeParen,
    .other '\x7b', .identifier "return"] ++ result ++ [.semicolon, .other '\x7d']

/-- The skeleton of the class around the array of its rules. -/
def classKinds (request : Request) : List Token.Kind :=
  [.other '<', .other '?', .identifier "php", .identifier "namespace"] ++
  Token.qualifiedName request.namespaceSegments ++
  [.semicolon, .identifier "use"] ++
  Token.qualifiedName ["Illuminate", "Foundation", "Http", "FormRequest"] ++
  [.semicolon, .identifier "class", .identifier request.requestName, .identifier "extends",
    .identifier "FormRequest", .other '\x7b'] ++
  methodKinds "authorize" [.identifier "true"] ++
  methodKinds "rules" request.rules.arrayKinds ++
  [.other '\x7d']

end Request

/-! ## Names -/

theorem Token.kinds_qualifiedName {segments : List String} {rest : List Char}
    (identifiers : ∀ segment ∈ segments, isIdentifier segment = true)
    (breaks : breaksWord rest = true) :
    kinds (("\\".intercalate segments).toList ++ rest) =
      Token.qualifiedName segments ++ kinds rest := by
  have separates : ∀ tail, kinds ("\\".toList ++ tail) = [.other '\\'] ++ kinds tail :=
    fun _ => Token.kinds_of_leading_one rfl
  have scanned := Token.kinds_intercalate (fun segment => segment)
    (fun segment => [.identifier segment]) separates (fun _ => rfl) breaks
    fun segment member _ breaks => Token.kinds_identifier (identifiers segment member) breaks
  rwa [List.map_id'] at scanned

/-- Word characters may be put behind an identifier. -/
theorem isIdentifier_append {name suffix : String} (identifier : isIdentifier name = true)
    (word : suffix.toList.all isWordCharacter = true) :
    isIdentifier (name ++ suffix) = true := by
  unfold isIdentifier at identifier ⊢
  rw [String.toList_append]
  split at identifier
  next => cases identifier
  next first more written =>
    rw [Bool.and_eq_true] at identifier
    rw [written, List.cons_append]
    simp only [List.all_append, identifier, word, Bool.and_true]

theorem Settings.isIdentifier_of_mem_splitAt {settings : Settings}
    (valid : settings.validate = .ok ()) (nonempty : settings.rootNamespace ≠ "") :
    ∀ segment ∈ splitAt '\\' settings.rootNamespace, isIdentifier segment = true := by
  have noneInvalid : invalidSegment? settings.rootNamespace = none := by
    unfold validate at valid
    split at valid
    next => cases valid
    next absent => exact absent
  rw [invalidSegment?, if_neg nonempty, List.find?_eq_none] at noneInvalid
  intro segment member
  simpa using noneInvalid segment member

theorem Request.namespaceName_eq_intercalate (request : Request) :
    request.namespaceName = "\\".intercalate request.namespaceSegments := by
  unfold namespaceName namespaceSegments
  by_cases empty : request.rootNamespace = ""
  · rw [if_pos empty, if_pos empty, List.nil_append, String.intercalate_singleton]
  · have root : "\\".intercalate (splitAt '\\' request.rootNamespace) = request.rootNamespace :=
      intercalate_splitAt '\\' request.rootNamespace
    rw [if_neg empty, if_neg empty,
      String.intercalate_append_of_ne_nil (splitAt_ne_nil _ _) (List.cons_ne_nil _ _), root,
      String.intercalate_singleton]

/-! ## The array -/

theorem Layout.isBlank_of_mem_indent (layout : Layout) :
    ∀ character ∈ layout.indent.toList, isBlank character = true := by
  intro character member
  rw [indent, String.toList_ofList] at member
  split at member
  · rw [List.eq_of_mem_replicate member]
    decide
  · rw [List.eq_of_mem_replicate member]
    decide

theorem Layout.kinds_indent (layout : Layout) (rest : List Char) :
    kinds (layout.indent.toList ++ rest) = kinds rest :=
  Token.kinds_blanks rest layout.isBlank_of_mem_indent

namespace RuleSet

theorem kinds_entryText (entry : String × List Rule) (rest : List Char) :
    kinds ((entryText entry).toList ++ rest) = entryKinds entry ++ kinds rest := by
  have rules := Token.kinds_intercalate (fun rule : Rule => singleQuoted rule.text)
    (fun rule => [.text rule.text]) Token.kinds_listComma (fun _ => rfl)
    (show breaksWord (']' :: rest) = true from rfl)
    fun rule (_ : rule ∈ entry.2) tail _ => Token.kinds_singleQuoted rule.text tail
  have becomes : ∀ tail, Token.leading 3 (" => [".toList ++ tail) =
      some ([.other '=', .other '>', .openBracket], tail) :=
    fun _ => rfl
  simp only [entryText, String.toList_append, List.append_assoc]
  rw [Token.kinds_singleQuoted, Token.kinds_of_leading (becomes _)]
  change _ :: (_ ++ kinds (_ ++ ']' :: rest)) = _
  rw [rules, Token.kinds_closeBracket]
  simp [entryKinds]

/-- Items with a comma behind each. -/
theorem intercalate_append_comma {items : List (List Token.Kind)} (nonempty : items ≠ []) :
    [Token.Kind.comma].intercalate items ++ [.comma] =
      items.flatMap fun item => item ++ [.comma] := by
  induction items with
  | nil => exact absurd rfl nonempty
  | cons first more inductionHypothesis =>
      cases more with
      | nil => simp
      | cons second others =>
          rw [List.intercalate_cons_cons, List.append_assoc, List.append_assoc,
            inductionHypothesis (List.cons_ne_nil _ _), List.flatMap_cons (x := first)]
          simp

theorem kinds_emptyArrayText {set : RuleSet} (empty : set.entries = []) (layout : Layout)
    (rest : List Char) :
    kinds ((set.arrayText layout).toList ++ rest) =
      .openBracket :: .closeBracket :: kinds rest := by
  have brackets : ∀ tail, Token.leading 2 ("[]".toList ++ tail) =
      some ([.openBracket, .closeBracket], tail) :=
    fun _ => rfl
  rw [arrayText, if_pos (List.isEmpty_iff.2 empty), Token.kinds_of_leading (brackets _)]
  rfl

/-- In any layout an array is scanned into its entries with commas between them,
and one behind them if the layout says so. -/
theorem kinds_filledArrayText {set : RuleSet} (filled : set.entries ≠ []) (layout : Layout)
    (rest : List Char) :
    kinds ((set.arrayText layout).toList ++ rest) =
      .openBracket :: ([Token.Kind.comma].intercalate (set.entries.map entryKinds) ++
        ((if layout.trailingCommas then [.comma] else []) ++ .closeBracket :: kinds rest)) := by
  have separates : ∀ tail, kinds (",\n".toList ++ tail) = [.comma] ++ kinds tail := by
    intro tail
    change kinds (',' :: '\n' :: tail) = _
    rw [Token.kinds_comma, Token.kinds_lineFeed]
    rfl
  have entries : ∀ tail, breaksWord tail = true →
      kinds ((",\n".intercalate
        (set.entries.map fun entry => layout.deeper.indent ++ entryText entry)).toList ++ tail) =
        [Token.Kind.comma].intercalate (set.entries.map entryKinds) ++ kinds tail :=
    fun tail breaks => Token.kinds_intercalate
      (fun entry : String × List Rule => layout.deeper.indent ++ entryText entry) entryKinds
      separates (fun _ => rfl) breaks fun entry _ behind _ => by
        rw [String.toList_append, List.append_assoc, Layout.kinds_indent, kinds_entryText]
  have closing : kinds ('\n' :: (layout.indent.toList ++ ']' :: rest)) =
      .closeBracket :: kinds rest := by
    rw [Token.kinds_lineFeed, Layout.kinds_indent, Token.kinds_closeBracket]
  rw [arrayText, if_neg (by simpa using filled)]
  simp only [String.toList_append, List.append_assoc]
  by_cases commas : layout.trailingCommas = true
  · rw [if_pos commas, if_pos commas]
    change kinds ('[' :: '\n' :: (_ ++ ',' :: '\n' :: (_ ++ ']' :: rest))) = _
    rw [Token.kinds_openBracket, Token.kinds_lineFeed, entries _ rfl, Token.kinds_comma, closing]
    rfl
  · rw [if_neg commas, if_neg commas]
    change kinds ('[' :: '\n' :: (_ ++ '\n' :: (_ ++ ']' :: rest))) = _
    rw [Token.kinds_openBracket, Token.kinds_lineFeed, entries _ rfl, closing]
    rfl

/-- The array is scanned into its literals and nothing else. -/
theorem kinds_arrayText (set : RuleSet) {layout : Layout}
    (commas : layout.trailingCommas = true) (rest : List Char) :
    kinds ((set.arrayText layout).toList ++ rest) = set.arrayKinds ++ kinds rest := by
  by_cases empty : set.entries = []
  · rw [kinds_emptyArrayText empty, arrayKinds, empty]
    rfl
  · have commaAfterEach := intercalate_append_comma
      (show set.entries.map entryKinds ≠ [] by simpa using empty)
    rw [List.flatMap_map] at commaAfterEach
    rw [kinds_filledArrayText empty, if_pos commas, arrayKinds, ← commaAfterEach]
    simp

end RuleSet

/-! ## The class -/

namespace Request

theorem isIdentifier_requestName {request : Request}
    (named : isIdentifier request.className = true) :
    isIdentifier request.requestName = true :=
  isIdentifier_append named (by decide)

/-- A method is scanned into its tokens, if the expression that it returns is. -/
theorem kinds_methodText {name result : String} {value : List Token.Kind} (rest : List Char)
    (identifier : isIdentifier name = true)
    (scans : ∀ tail, breaksWord tail = true →
      kinds (result.toList ++ tail) = value ++ kinds tail) :
    kinds ((methodText name result).toList ++ rest) = methodKinds name value ++ kinds rest := by
  have visibility : ∀ tail, kinds ("public function ".toList ++ tail) =
      [.identifier "public", .identifier "function"] ++ kinds tail :=
    kinds_piece 2 [' '] (fun _ => rfl) (by decide)
  have parentheses : ∀ tail, kinds ("()\n".toList ++ tail) =
      [.openParen, .closeParen] ++ kinds tail :=
    kinds_piece 2 ['\n'] (fun _ => rfl) (by decide)
  have opening : ∀ tail, kinds ("\x7b\n".toList ++ tail) = [.other '\x7b'] ++ kinds tail :=
    kinds_piece 1 ['\n'] (fun _ => rfl) (by decide)
  have returned : ∀ tail, kinds ("return ".toList ++ tail) =
      [.identifier "return"] ++ kinds tail :=
    kinds_piece 1 [' '] (fun _ => rfl) (by decide)
  have ended : ∀ tail, kinds (";\n".toList ++ tail) = [.semicolon] ++ kinds tail :=
    kinds_piece 1 ['\n'] (fun _ => rfl) (by decide)
  have closing : ∀ tail, kinds ("\x7d\n".toList ++ tail) = [.other '\x7d'] ++ kinds tail :=
    kinds_piece 1 ['\n'] (fun _ => rfl) (by decide)
  simp only [methodText, String.toList_append, List.append_assoc]
  rw [Layout.kinds_indent, visibility, Token.kinds_identifier identifier rfl, parentheses,
    Layout.kinds_indent, opening, Layout.kinds_indent, returned, scans _ rfl, ended,
    Layout.kinds_indent, closing]
  simp [methodKinds]

/-- The text of a class is scanned into its tokens, up to its end. -/
theorem kinds_classText {request : Request}
    (segments : ∀ segment ∈ request.namespaceSegments, isIdentifier segment = true)
    (named : isIdentifier request.className = true) :
    kinds request.classText.toList = request.classKinds := by
  -- The fixed pieces of the text, each read up to the blanks behind it.
  have tag : ∀ tail, kinds ("<?php\n\n".toList ++ tail) =
      [.other '<', .other '?', .identifier "php"] ++ kinds tail :=
    kinds_piece 3 ['\n', '\n'] (fun _ => rfl) (by decide)
  have space : ∀ tail, kinds ("namespace ".toList ++ tail) =
      [.identifier "namespace"] ++ kinds tail :=
    kinds_piece 1 [' '] (fun _ => rfl) (by decide)
  have ended : ∀ tail, kinds (";\n\n".toList ++ tail) = [.semicolon] ++ kinds tail :=
    kinds_piece 1 ['\n', '\n'] (fun _ => rfl) (by decide)
  have imported : ∀ tail, kinds ("use ".toList ++ tail) = [.identifier "use"] ++ kinds tail :=
    kinds_piece 1 [' '] (fun _ => rfl) (by decide)
  have classWord : ∀ tail, kinds ("class ".toList ++ tail) =
      [.identifier "class"] ++ kinds tail :=
    kinds_piece 1 [' '] (fun _ => rfl) (by decide)
  have extended : ∀ tail, kinds (" extends FormRequest\n\x7b\n".toList ++ tail) =
      [.identifier "extends", .identifier "FormRequest", .other '\x7b'] ++ kinds tail :=
    kinds_piece 3 ['\n'] (fun _ => rfl) (by decide)
  have lastBrace : kinds "\x7d\n".toList = [.other '\x7d'] := by
    have closing : ∀ tail, kinds ("\x7d\n".toList ++ tail) = [.other '\x7d'] ++ kinds tail :=
      kinds_piece 1 ['\n'] (fun _ => rfl) (by decide)
    have read := closing []
    rwa [List.append_nil, Token.kinds_nil, List.append_nil] at read
  have lineFeed : ∀ tail, kinds ("\n".toList ++ tail) = kinds tail := Token.kinds_lineFeed
  -- The names and the methods between the fixed pieces.
  have base : baseClass = "\\".intercalate ["Illuminate", "Foundation", "Http", "FormRequest"] :=
    rfl
  have baseSegments : ∀ segment ∈ ["Illuminate", "Foundation", "Http", "FormRequest"],
      isIdentifier segment = true := by
    decide
  have authorize : ∀ rest, kinds ((methodText "authorize" "true").toList ++ rest) =
      methodKinds "authorize" [.identifier "true"] ++ kinds rest :=
    fun rest => kinds_methodText rest (by decide) fun _ => Token.kinds_identifier (by decide)
  have rules : ∀ rest,
      kinds ((methodText "rules" (request.rules.arrayText { level := 2 })).toList ++ rest) =
        methodKinds "rules" request.rules.arrayKinds ++ kinds rest :=
    fun rest => kinds_methodText rest (by decide) fun tail _ => RuleSet.kinds_arrayText _ rfl tail
  unfold classText
  simp only [String.toList_append, List.append_assoc, namespaceName_eq_intercalate, base]
  rw [tag, space, Token.kinds_qualifiedName segments rfl, ended, imported,
    Token.kinds_qualifiedName baseSegments rfl, ended, classWord,
    Token.kinds_identifier (isIdentifier_requestName named) rfl, extended, authorize, lineFeed,
    rules, lastBrace]
  simp only [classKinds, List.append_assoc, List.cons_append, List.nil_append]

end Request

/-! ## Literals -/

namespace Token

/-- The literals among some tokens. -/
def texts (kinds : List Token.Kind) : List String :=
  kinds.filterMap Token.Kind.text?

theorem texts_append (front back : List Token.Kind) :
    texts (front ++ back) = texts front ++ texts back :=
  List.filterMap_append

/-- Separators without literals add none to those of a list. -/
theorem texts_intercalate {between : List Token.Kind} (silent : texts between = [])
    (items : List (List Token.Kind)) :
    texts (between.intercalate items) = items.flatMap texts := by
  induction items with
  | nil => rfl
  | cons first more inductionHypothesis =>
      cases more with
      | nil => rw [List.intercalate_singleton, List.flatMap_singleton]
      | cons second others =>
          rw [List.intercalate_cons_cons, texts_append, texts_append, silent,
            inductionHypothesis, List.append_nil]
          rfl

theorem texts_qualifiedName (segments : List String) : texts (qualifiedName segments) = [] := by
  rw [qualifiedName, texts_intercalate rfl, List.flatMap_map, List.flatMap_eq_nil_iff]
  intro segment _
  rfl

end Token

theorem RuleSet.texts_entryKinds (entry : String × List Rule) :
    Token.texts (entryKinds entry) = entry.1 :: entry.2.map Rule.text := by
  have rules : Token.texts ([Token.Kind.comma].intercalate
      (entry.2.map fun rule => [.text rule.text])) = entry.2.map Rule.text := by
    rw [Token.texts_intercalate rfl, List.flatMap_map, List.map_eq_flatMap]
    rfl
  have shape : entryKinds entry =
      [.text entry.1, .other '=', .other '>', .openBracket] ++
        ([Token.Kind.comma].intercalate (entry.2.map fun rule => [.text rule.text]) ++
          [.closeBracket]) := rfl
  rw [shape, Token.texts_append, Token.texts_append, rules]
  simp [Token.texts, List.filterMap_cons, Token.Kind.text?]

theorem RuleSet.texts_arrayKinds (set : RuleSet) :
    Token.texts set.arrayKinds =
      set.entries.flatMap fun entry => entry.1 :: entry.2.map Rule.text := by
  have entries : ∀ entries : List (String × List Rule),
      Token.texts (entries.flatMap fun entry => entryKinds entry ++ [.comma]) =
        entries.flatMap fun entry => entry.1 :: entry.2.map Rule.text := by
    intro entries
    induction entries with
    | nil => rfl
    | cons first more inductionHypothesis =>
        rw [List.flatMap_cons, List.flatMap_cons, Token.texts_append, Token.texts_append,
          texts_entryKinds, inductionHypothesis]
        simp [Token.texts, List.filterMap_cons, Token.Kind.text?]
  have shape : set.arrayKinds = [.openBracket] ++
      (set.entries.flatMap (fun entry => entryKinds entry ++ [.comma]) ++ [.closeBracket]) := rfl
  rw [shape, Token.texts_append, Token.texts_append, entries]
  simp [Token.texts, List.filterMap_cons, Token.Kind.text?]

namespace Request

theorem texts_methodKinds (name : String) (result : List Token.Kind) :
    Token.texts (methodKinds name result) = Token.texts result := by
  rw [methodKinds, Token.texts_append, Token.texts_append]
  simp [Token.texts, List.filterMap_cons, Token.Kind.text?]

/-- The skeleton of a class has no literals of its own. -/
theorem texts_classKinds (request : Request) :
    Token.texts request.classKinds =
      request.rules.entries.flatMap fun entry => entry.1 :: entry.2.map Rule.text := by
  simp only [classKinds, Token.texts_append, Token.texts_qualifiedName, texts_methodKinds,
    RuleSet.texts_arrayKinds]
  simp [Token.texts, List.filterMap_cons, Token.Kind.text?]

/-- Under accepted settings, and if the class name is an identifier, the text of
a class is scanned into exactly the skeleton around the array of its rules: no
name of a column or of what it refers to reaches out of its literal.  The
literals are the columns that have rules, each with the texts of its rules. -/
theorem tokens_classText (settings : Settings) (table : Table)
    (valid : settings.validate = .ok ())
    (named : isIdentifier (Naming.className table.name) = true) :
    (Token.tokenize (ofTable settings table).classText).map Token.kind =
      (ofTable settings table).classKinds ∧
    Token.texts ((Token.tokenize (ofTable settings table).classText).map Token.kind) =
      (RuleSet.ofTable table settings.dropUnmapped).entries.flatMap
        (fun entry => entry.1 :: entry.2.map Rule.text) := by
  have segments : ∀ segment ∈ (ofTable settings table).namespaceSegments,
      isIdentifier segment = true := by
    intro segment member
    rcases List.mem_append.1 member with inRoot | isClass
    · by_cases empty : settings.rootNamespace = ""
      · rw [if_pos (show (ofTable settings table).rootNamespace = "" from empty)] at inRoot
        cases inRoot
      · rw [if_neg (show (ofTable settings table).rootNamespace ≠ "" from empty)] at inRoot
        exact Settings.isIdentifier_of_mem_splitAt valid empty segment inRoot
    · rw [List.mem_singleton.1 isClass]
      exact named
  have scanned : (Token.tokenize (ofTable settings table).classText).map Token.kind =
      (ofTable settings table).classKinds := by
    rw [Token.map_kind_tokenize]
    exact kinds_classText segments named
  refine ⟨scanned, ?_⟩
  rw [scanned]
  exact texts_classKinds (ofTable settings table)

/-- Column names that close literals and arrays and open comments. -/
theorem tokens_classText_hostile_names :
    let table := Table.ofColumns "user_groups"
      [{ name := "a\x27]; /* ?-> \\", type := .string, length := some 9,
         foreign := some ⟨"\x27); // #", some "\\\x27\n"⟩ }]
    let settings : Settings := {}
    settings.validate = .ok () ∧ isIdentifier (Naming.className table.name) = true ∧
    (Token.tokenize (ofTable settings table).classText).map Token.kind =
      (ofTable settings table).classKinds ∧
    Token.texts ((Token.tokenize (ofTable settings table).classText).map Token.kind) =
      ["a\x27]; /* ?-> \\", "string", "max:9", "required",
        "exists:\x27); // #,\\\x27\n"] := by
  intro table settings
  have valid : settings.validate = .ok () := by
    have segments : Settings.invalidSegment? settings.rootNamespace = none := by decide +kernel
    have extension : Settings.isBareExtension settings.extension = true := by decide +kernel
    simp only [Settings.validate, segments, extension, if_true]
  have named : isIdentifier (Naming.className table.name) = true := by decide +kernel
  obtain ⟨tokens, literals⟩ := tokens_classText settings table valid named
  refine ⟨valid, named, tokens, literals.trans ?_⟩
  decide +kernel

end Request

end FormRules
