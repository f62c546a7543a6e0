import FormRules.Json.Parse
import FormRules.Json.Print
import FormRules.Proofs.Json.Token

/-!
Contract: a written value, read back as the same value.

Owns:
- the scan of the form in lines, and of the compact form, into the tokens of the value;
- the value that these tokens stand for, inside any open arrays and objects;
- the value read back from either form.

Does not own: strings and numbers as such.

Both halves follow the value: the scan puts the text of a value in front of a
text that is already scanned, and the reader takes the tokens of a value from
the state that expects one to the state that has it.
-/

namespace FormRules.Json

open FormRules.Json.Token (Scans breaksNumber)

/-! ## Scan -/

section

variable {rest : List Char} {tokens : List Token}

theorem isBlank_of_mem_lineAt (level : Nat) :
    ∀ character ∈ lineAt level, Token.isBlank character = true := by
  intro character member
  rcases List.mem_cons.1 member with rfl | space
  · rfl
  · rw [List.eq_of_mem_replicate space]
    rfl

theorem breaksNumber_prettyItems (level : Nat) (items : List Json) (rest : List Char) :
    breaksNumber (prettyItems level items ++ rest) = true := by
  cases items with
  | nil => rw [prettyItems]; rfl
  | cons item items => rw [prettyItems]; rfl

theorem breaksNumber_prettyMembers (level : Nat) (members : List (String × Json))
    (rest : List Char) : breaksNumber (prettyMembers level members ++ rest) = true := by
  match members with
  | [] => rw [prettyMembers]; rfl
  | (name, value) :: members => rw [prettyMembers]; rfl

/-- A token that is no number may stand in front of any text. -/
theorem Token.Scans.plain (scans : Scans rest tokens) (token : Token)
    (notNumber : ∀ literal, token ≠ .number literal) :
    Scans (token.written ++ rest) (token :: tokens) :=
  scans.token_of_read? (Token.readsBack notNumber) (Token.read?_written notNumber rest)

/-- A token that is one character, and no number. -/
theorem Token.Scans.mark {character : Char} (scans : Scans rest tokens) (token : Token)
    (mark : token.written = [character]) (notNumber : ∀ literal, token ≠ .number literal) :
    Scans (character :: rest) (token :: tokens) := by
  have marked := scans.plain token notNumber
  rwa [mark] at marked

/-- The name of a member on a line of its own, in front of the value. -/
theorem Token.Scans.memberName (level : Nat) (name : String) (scans : Scans rest tokens) :
    Scans (lineAt level ++ (Token.string name).written ++ [':', ' '] ++ rest)
      (.string name :: .colon :: tokens) := by
  have colon : Scans (':' :: ' ' :: rest) (.colon :: tokens) :=
    (scans.blank rfl).mark .colon rfl nofun
  have readsBack : (Token.string name).ReadsBack := Token.readsBack nofun
  have named := colon.token readsBack rfl
  simpa only [List.append_assoc, List.cons_append, List.nil_append] using
    named.blanks (isBlank_of_mem_lineAt level)

end

mutual

/-- The text of a value is scanned into its tokens. -/
theorem scans_prettyAt {rest : List Char} {tokens : List Token} (level : Nat) (value : Json)
    (readsBack : ∀ token ∈ value.tokens, token.ReadsBack) (scans : Scans rest tokens)
    (breaks : breaksNumber rest = true) :
    Scans (prettyAt level value ++ rest) (value.tokens ++ tokens) := by
  match value with
  | .null | .bool _ | .number _ | .string _ | .illegible =>
      simp only [Json.tokens, List.forall_mem_singleton] at readsBack
      simp only [prettyAt, Json.tokens]
      exact scans.token readsBack breaks
  | .array [] =>
      have closed : Scans (']' :: rest) (.closeArray :: tokens) :=
        scans.mark .closeArray rfl nofun
      exact closed.mark .openArray rfl nofun
  | .array (item :: items) =>
      simp only [Json.tokens, List.forall_mem_cons, List.forall_mem_append] at readsBack
      have further := scans_prettyItems level items readsBack.2.2 scans
      have first := scans_prettyAt (level + 1) item readsBack.2.1 further
        (breaksNumber_prettyItems level items rest)
      have line := first.blanks (isBlank_of_mem_lineAt (level + 1))
      have opened := line.mark .openArray rfl nofun
      simpa only [prettyAt, Json.tokens, List.append_assoc, List.cons_append] using opened
  | .object [] =>
      have closed : Scans ('\x7d' :: rest) (.closeObject :: tokens) :=
        scans.mark .closeObject rfl nofun
      exact closed.mark .openObject rfl nofun
  | .object ((name, first) :: members) =>
      simp only [Json.tokens, List.forall_mem_cons, List.forall_mem_append] at readsBack
      have further := scans_prettyMembers level members readsBack.2.2.2.2 scans
      have value := scans_prettyAt (level + 1) first readsBack.2.2.2.1 further
        (breaksNumber_prettyMembers level members rest)
      have opened := (value.memberName (level + 1) name).mark .openObject rfl nofun
      simpa only [prettyAt, Json.tokens, List.append_assoc, List.cons_append] using opened

/-- The further items of an array, up to its end. -/
theorem scans_prettyItems {rest : List Char} {tokens : List Token} (level : Nat)
    (items : List Json)
    (readsBack : ∀ token ∈ itemTokens items, token.ReadsBack) (scans : Scans rest tokens) :
    Scans (prettyItems level items ++ rest) (itemTokens items ++ tokens) := by
  match items with
  | [] =>
      have closed : Scans (']' :: rest) (.closeArray :: tokens) :=
        scans.mark .closeArray rfl nofun
      have line := closed.blanks (isBlank_of_mem_lineAt level)
      simpa only [prettyItems, itemTokens, List.append_assoc, List.singleton_append] using line
  | item :: items =>
      simp only [itemTokens, List.forall_mem_cons, List.forall_mem_append] at readsBack
      have further := scans_prettyItems level items readsBack.2.2 scans
      have next := scans_prettyAt (level + 1) item readsBack.2.1 further
        (breaksNumber_prettyItems level items rest)
      have line := next.blanks (isBlank_of_mem_lineAt (level + 1))
      have separated := line.mark .comma rfl nofun
      simpa only [prettyItems, itemTokens, List.append_assoc, List.cons_append] using separated

/-- The further members of an object, up to its end. -/
theorem scans_prettyMembers {rest : List Char} {tokens : List Token} (level : Nat)
    (members : List (String × Json))
    (readsBack : ∀ token ∈ memberTokens members, token.ReadsBack) (scans : Scans rest tokens) :
    Scans (prettyMembers level members ++ rest) (memberTokens members ++ tokens) := by
  match members with
  | [] =>
      have closed : Scans ('\x7d' :: rest) (.closeObject :: tokens) :=
        scans.mark .closeObject rfl nofun
      have line := closed.blanks (isBlank_of_mem_lineAt level)
      simpa only [prettyMembers, memberTokens, List.append_assoc, List.singleton_append] using line
  | (name, next) :: members =>
      simp only [memberTokens, List.forall_mem_cons, List.forall_mem_append] at readsBack
      have further := scans_prettyMembers level members readsBack.2.2.2.2 scans
      have value := scans_prettyAt (level + 1) next readsBack.2.2.2.1 further
        (breaksNumber_prettyMembers level members rest)
      have separated := (value.memberName (level + 1) name).mark .comma rfl nofun
      simpa only [prettyMembers, memberTokens, List.append_assoc, List.cons_append] using separated

end

/-! ## Scan of the compact form -/

section

variable {rest : List Char} {tokens : List Token}

theorem Token.Scans.compactName (name : String) (scans : Scans rest tokens) :
    Scans ((Token.string name).written ++ (Token.colon.written ++ rest))
      (.string name :: .colon :: tokens) :=
  (scans.plain .colon nofun).plain (.string name) nofun

theorem breaksNumber_itemTokens (items : List Json) (rest : List Char) :
    breaksNumber ((itemTokens items).flatMap Token.written ++ rest) = true := by
  cases items <;> rw [itemTokens] <;> rfl

theorem breaksNumber_memberTokens (members : List (String × Json)) (rest : List Char) :
    breaksNumber ((memberTokens members).flatMap Token.written ++ rest) = true := by
  match members with
  | [] | (_, _) :: _ => rw [memberTokens]; rfl

end

mutual

/-- The tokens of a value, written one after the other, are scanned again. -/
theorem scans_tokens {rest : List Char} {tokens : List Token} (value : Json)
    (readsBack : ∀ token ∈ value.tokens, token.ReadsBack) (scans : Scans rest tokens)
    (breaks : breaksNumber rest = true) :
    Scans (value.tokens.flatMap Token.written ++ rest) (value.tokens ++ tokens) := by
  match value with
  | .null | .bool _ | .number _ | .string _ | .illegible =>
      simp only [Json.tokens, List.forall_mem_singleton] at readsBack
      simp only [Json.tokens, List.flatMap_cons, List.flatMap_nil, List.append_nil]
      exact scans.token readsBack breaks
  | .array [] => exact (scans.plain .closeArray nofun).plain .openArray nofun
  | .array (item :: items) =>
      simp only [Json.tokens, List.forall_mem_cons, List.forall_mem_append] at readsBack
      have further := scans_itemTokens items readsBack.2.2 scans
      have first := scans_tokens item readsBack.2.1 further (breaksNumber_itemTokens items rest)
      have opened := first.plain .openArray nofun
      simpa only [Json.tokens, List.flatMap_cons, List.flatMap_append, List.append_assoc,
        List.cons_append] using opened
  | .object [] => exact (scans.plain .closeObject nofun).plain .openObject nofun
  | .object ((name, first) :: members) =>
      simp only [Json.tokens, List.forall_mem_cons, List.forall_mem_append] at readsBack
      have further := scans_memberTokens members readsBack.2.2.2.2 scans
      have value := scans_tokens first readsBack.2.2.2.1 further
        (breaksNumber_memberTokens members rest)
      have opened := (value.compactName name).plain .openObject nofun
      simpa only [Json.tokens, List.flatMap_cons, List.flatMap_append, List.append_assoc,
        List.cons_append] using opened

/-- The further items of an array, up to its end. -/
theorem scans_itemTokens {rest : List Char} {tokens : List Token} (items : List Json)
    (readsBack : ∀ token ∈ itemTokens items, token.ReadsBack) (scans : Scans rest tokens) :
    Scans ((itemTokens items).flatMap Token.written ++ rest) (itemTokens items ++ tokens) := by
  match items with
  | [] => exact scans.plain .closeArray nofun
  | item :: items =>
      simp only [itemTokens, List.forall_mem_cons, List.forall_mem_append] at readsBack
      have further := scans_itemTokens items readsBack.2.2 scans
      have next := scans_tokens item readsBack.2.1 further (breaksNumber_itemTokens items rest)
      have separated := next.plain .comma nofun
      simpa only [itemTokens, List.flatMap_cons, List.flatMap_append, List.append_assoc,
        List.cons_append] using separated

/-- The further members of an object, up to its end. -/
theorem scans_memberTokens {rest : List Char} {tokens : List Token}
    (members : List (String × Json))
    (readsBack : ∀ token ∈ memberTokens members, token.ReadsBack) (scans : Scans rest tokens) :
    Scans ((memberTokens members).flatMap Token.written ++ rest)
      (memberTokens members ++ tokens) := by
  match members with
  | [] => exact scans.plain .closeObject nofun
  | (name, next) :: members =>
      simp only [memberTokens, List.forall_mem_cons, List.forall_mem_append] at readsBack
      have further := scans_memberTokens members readsBack.2.2.2.2 scans
      have value := scans_tokens next readsBack.2.2.2.1 further
        (breaksNumber_memberTokens members rest)
      have separated := (value.compactName name).plain .comma nofun
      simpa only [memberTokens, List.flatMap_cons, List.flatMap_append, List.append_assoc,
        List.cons_append] using separated

end

/-! ## Value -/

open Progress in
/-- A value that starts an array is read as any other one: no value starts with
the end of an array. -/
theorem foldlM_firstItem (value : Json) (frames : List Frame) (rest : List Token) :
    (value.tokens ++ rest).foldlM step ⟨frames, .firstItem⟩ =
      (value.tokens ++ rest).foldlM step ⟨frames, .value⟩ := by
  match value with
  | .null | .bool _ | .number _ | .string _ | .illegible => rfl
  | .array [] | .object [] => rfl
  | .array (_ :: _) | .object ((_, _) :: _) =>
      rw [Json.tokens]
      rfl

theorem ofMembers_legible (members : List (String × Json)) :
    ofMembers (members.map fun member => (some member.1, member.2)) = .object members := by
  have all : (members.map fun member => (some member.1, member.2)).mapM
      (fun member => member.1.map fun name => (name, member.2)) = some members := by
    rw [List.mapM_map]
    exact List.mapM_pure.trans (congrArg some (List.map_id members))
  rw [ofMembers, all]

mutual

/-- The tokens of a value are read as this value, whatever is open around it. -/
theorem foldlM_tokens (value : Json) (frames : List Frame) (rest : List Token) :
    (value.tokens ++ rest).foldlM Progress.step ⟨frames, .value⟩ =
      rest.foldlM Progress.step ⟨frames, .after value⟩ := by
  match value with
  | .null | .bool _ | .number _ | .string _ | .illegible => rfl
  | .array [] | .object [] => rfl
  | .array (item :: items) =>
      have first := foldlM_tokens item (.array [] :: frames) (itemTokens items ++ rest)
      rw [← foldlM_firstItem, foldlM_itemTokens items item [] frames rest] at first
      rw [Json.tokens, List.cons_append, List.append_assoc]
      exact first
  | .object ((name, first) :: members) =>
      have value := foldlM_tokens first (.object [] (some name) :: frames)
        (memberTokens members ++ rest)
      rw [foldlM_memberTokens members name first [] frames rest, List.reverse_singleton,
        List.singleton_append] at value
      rw [Json.tokens, ← ofMembers_legible, List.map_cons, ← value]
      simp only [List.cons_append, List.append_assoc]
      rfl

/-- The items behind the last one read are read up to the end of the array. -/
theorem foldlM_itemTokens (items : List Json) (last : Json) (before : List Json)
    (frames : List Frame) (rest : List Token) :
    (itemTokens items ++ rest).foldlM Progress.step ⟨.array before :: frames, .after last⟩ =
      rest.foldlM Progress.step
        ⟨frames, .after (.array ((last :: before).reverse ++ items))⟩ := by
  match items with
  | [] =>
      rw [List.append_nil]
      rfl
  | item :: items =>
      have next := foldlM_tokens item (.array (last :: before) :: frames)
        (itemTokens items ++ rest)
      rw [foldlM_itemTokens items item (last :: before) frames rest, List.reverse_cons,
        List.append_assoc, List.singleton_append] at next
      rw [itemTokens, List.cons_append, List.append_assoc]
      exact next

/-- The members behind the last one read are read up to the end of the object. -/
theorem foldlM_memberTokens (members : List (String × Json)) (name : String) (last : Json)
    (before : Members) (frames : List Frame) (rest : List Token) :
    (memberTokens members ++ rest).foldlM Progress.step
        ⟨.object before (some name) :: frames, .after last⟩ =
      rest.foldlM Progress.step ⟨frames, .after (ofMembers
        (((some name, last) :: before).reverse ++
          members.map fun member => (some member.1, member.2)))⟩ := by
  match members with
  | [] =>
      rw [List.map_nil, List.append_nil]
      rfl
  | (nextName, next) :: members =>
      have value := foldlM_tokens next
        (.object ((some name, last) :: before) (some nextName) :: frames)
        (memberTokens members ++ rest)
      rw [foldlM_memberTokens members nextName next ((some name, last) :: before) frames rest,
        List.reverse_cons, List.append_assoc, List.singleton_append] at value
      rw [List.map_cons, ← value, memberTokens]
      simp only [List.cons_append, List.append_assoc]
      rfl

end

theorem ofTokens?_tokens (value : Json) : ofTokens? value.tokens = some value := by
  have read := foldlM_tokens value [] []
  rw [List.append_nil] at read
  rw [ofTokens?, read]
  rfl

/-! ## Values that are read back -/

/-- Every token of the value is read from its written form; what could fail is
the literal of a number. -/
def ReadsBack (value : Json) : Prop :=
  ∀ token ∈ value.tokens, token.ReadsBack

theorem readsBack_string (text : String) : (Json.string text).ReadsBack :=
  List.forall_mem_singleton.2 (Token.readsBack nofun)

theorem readsBack_null : Json.null.ReadsBack :=
  List.forall_mem_singleton.2 (Token.readsBack nofun)

theorem readsBack_bool (value : Bool) : (Json.bool value).ReadsBack :=
  List.forall_mem_singleton.2 (Token.readsBack nofun)

theorem readsBack_decimal (value : Nat) : (Json.number (Text.decimal value)).ReadsBack :=
  List.forall_mem_singleton.2 (Token.readsBack_decimal value)

theorem readsBack_array {items : List Json} (readsBack : ∀ item ∈ items, item.ReadsBack) :
    (Json.array items).ReadsBack := by
  have further : ∀ {items : List Json}, (∀ item ∈ items, item.ReadsBack) →
      ∀ token ∈ itemTokens items, token.ReadsBack := by
    intro items readsBack
    induction items with
    | nil => exact List.forall_mem_singleton.2 (Token.readsBack nofun)
    | cons item items inductionHypothesis =>
        rw [itemTokens, List.forall_mem_cons, List.forall_mem_append]
        rw [List.forall_mem_cons] at readsBack
        exact ⟨Token.readsBack nofun, readsBack.1, inductionHypothesis readsBack.2⟩
  cases items with
  | nil =>
      exact List.forall_mem_cons.2 ⟨Token.readsBack nofun,
        List.forall_mem_singleton.2 (Token.readsBack nofun)⟩
  | cons item items =>
      rw [List.forall_mem_cons] at readsBack
      rw [ReadsBack, Json.tokens, List.forall_mem_cons, List.forall_mem_append]
      exact ⟨Token.readsBack nofun, readsBack.1, further readsBack.2⟩

theorem readsBack_object {members : List (String × Json)}
    (readsBack : ∀ member ∈ members, member.2.ReadsBack) : (Json.object members).ReadsBack := by
  have further : ∀ {members : List (String × Json)},
      (∀ member ∈ members, member.2.ReadsBack) →
      ∀ token ∈ memberTokens members, token.ReadsBack := by
    intro members readsBack
    induction members with
    | nil => exact List.forall_mem_singleton.2 (Token.readsBack nofun)
    | cons member members inductionHypothesis =>
        rw [List.forall_mem_cons] at readsBack
        rw [memberTokens]
        simp only [List.forall_mem_cons, List.forall_mem_append]
        exact ⟨Token.readsBack nofun, Token.readsBack nofun, Token.readsBack nofun, readsBack.1,
          inductionHypothesis readsBack.2⟩
  cases members with
  | nil =>
      exact List.forall_mem_cons.2 ⟨Token.readsBack nofun,
        List.forall_mem_singleton.2 (Token.readsBack nofun)⟩
  | cons member members =>
      rw [List.forall_mem_cons] at readsBack
      rw [ReadsBack, Json.tokens]
      simp only [List.forall_mem_cons, List.forall_mem_append]
      exact ⟨Token.readsBack nofun, Token.readsBack nofun, Token.readsBack nofun, readsBack.1,
        further readsBack.2⟩

/-- A value is read back from its form in lines, with any blanks behind it. -/
theorem parse?_pretty_append {value : Json} (readsBack : value.ReadsBack) {behind : String}
    (blanks : ∀ character ∈ behind.toList, Token.isBlank character = true) :
    parse? (value.pretty ++ behind) = some value := by
  have noToken : Scans behind.toList [] := by
    simpa using Token.scans_nil.blanks blanks
  have scans := scans_prettyAt 0 value readsBack noToken (Token.breaksNumber_of_blanks blanks)
  rw [List.append_nil] at scans
  rw [parse?, pretty, String.toList_append, String.toList_ofList, scans.scan?, Option.bind_some,
    ofTokens?_tokens]

/-- A value is read back from its compact form. -/
theorem parse?_compact {value : Json} (readsBack : value.ReadsBack) :
    parse? value.compact = some value := by
  have scans := scans_tokens value readsBack Token.scans_nil rfl
  rw [List.append_nil, List.append_nil] at scans
  rw [parse?, compact, String.toList_ofList, scans.scan?, Option.bind_some, ofTokens?_tokens]

end FormRules.Json
