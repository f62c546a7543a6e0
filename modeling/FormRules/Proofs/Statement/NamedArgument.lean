import FormRules.Proofs.Statement.Modifiers

/-!
Contract: arguments that are written by name in place of their position.

Owns:
- the call with one of its arguments named, and what its readings become;
- the column of a chain in which one modifier is replaced by another of its name;
- the cases in which naming an argument does, and does not, change a column.

Does not own: the order of modifiers, or modifiers that are not read.

A number is looked for by name first and by position second, so naming it makes
no difference.  A flag is looked for by position only.  A named flag is
therefore no flag at all: the modifier is on, as if it had no argument, whatever
the value says.
-/

namespace FormRules

open FormRules.Text

/-- The value of an argument that is written by the given name. -/
def Argument.valueOf? (name : String) : Argument → Option Argument
  | .named label value => if sameIgnoringCase label name then some value else none
  | _ => none

namespace Call

/-- The call with the argument at a position, if there is one, written by name. -/
def nameArgument (call : Call) (position : Nat) (label : String) : Call :=
  { call with arguments := call.arguments.modify position (.named label) }

/-! ## Readings of a named argument -/

@[simp]
theorem name_nameArgument (call : Call) (position : Nat) (label : String) :
    (call.nameArgument position label).name = call.name := rfl

@[simp]
theorem isNamed_nameArgument (call : Call) (position : Nat) (label name : String) :
    (call.nameArgument position label).isNamed name = call.isNamed name := rfl

theorem named?_eq_findSome? (call : Call) (name : String) :
    call.named? name = call.arguments.findSome? (Argument.valueOf? name) := by
  rw [named?]
  congr 1

private theorem findSome?_modify_named {label name : String}
    (same : sameIgnoringCase label name = true) {arguments : List Argument} (position : Nat)
    (absent : arguments.findSome? (Argument.valueOf? name) = none) :
    (arguments.modify position (.named label)).findSome? (Argument.valueOf? name) =
      arguments[position]? := by
  induction arguments generalizing position with
  | nil => simp
  | cons first rest inductionHypothesis =>
      rw [List.findSome?_cons] at absent
      cases firstValue : first.valueOf? name with
      | some value => simp [firstValue] at absent
      | none =>
          rw [firstValue] at absent
          cases position with
          | zero => simp [Argument.valueOf?, same]
          | succ position =>
              simp only [List.modify_succ_cons, List.findSome?_cons, firstValue,
                List.getElem?_cons_succ]
              exact inductionHypothesis position absent

/-- The argument that was named is found by its name. -/
theorem named?_nameArgument {call : Call} {label name : String}
    (same : sameIgnoringCase label name = true) (absent : call.named? name = none)
    (position : Nat) :
    (call.nameArgument position label).named? name = call.arguments[position]? := by
  rw [named?_eq_findSome?] at absent ⊢
  exact findSome?_modify_named same position absent

/-- At its old position it is no longer read as a number. -/
theorem word32At?_nameArgument (call : Call) (position : Nat) (label : String) :
    (call.nameArgument position label).word32At? position = none := by
  rw [word32At?, nameArgument, List.getElem?_modify_eq]
  cases call.arguments[position]? <;> rfl

/-- A number may be named, unless another argument has that name. -/
theorem word32?_nameArgument {call : Call} {label name : String}
    (same : sameIgnoringCase label name = true) (absent : call.named? name = none)
    (position : Nat) :
    (call.nameArgument position label).word32? position name = call.word32? position name := by
  rw [word32?, word32?, named?_nameArgument same absent, word32At?_nameArgument, absent,
    Option.or_none, Option.bind_none, Option.none_or, word32At?]

theorem text?_nameArgument_of_ne (call : Call) {position other : Nat} (label : String)
    (different : position ≠ other) :
    (call.nameArgument position label).text? other = call.text? other := by
  simp [text?, nameArgument, different]

theorem flag_of_word {call : Call} {word : String}
    (flagged : call.arguments.head? = some (.identifier word)) :
    call.flag = !sameIgnoringCase word "false" := by
  rw [flag, flagged]

/-- A named argument switches nothing off. -/
theorem flag_nameArgument (call : Call) (label : String) :
    (call.nameArgument 0 label).flag = true := by
  rw [flag, nameArgument, List.head?_eq_getElem?, List.getElem?_modify_eq]
  cases call.arguments[0]? <;> rfl

end Call

namespace Statement

/-! ## One place of a chain -/

theorem nullable_of_column? {statement : Statement} {column : Column}
    (defined : statement.column? = some column) :
    column.nullable = statement.nullable := by
  unfold column? at defined
  split at defined
  · cases defined
  · obtain ⟨name, _, rfl⟩ := Option.map_eq_some_iff.1 defined
    rfl

section Place

variable (call : Call) (front back : List Call)

/-- The last modifier of a name is behind the place, at it, or before it. -/
theorem modifier?_at (modifier : Call) (name : String) :
    modifier? ⟨call, front ++ modifier :: back⟩ name =
      (modifier? ⟨call, back⟩ name).or
        (if modifier.isNamed name then some modifier else modifier? ⟨call, front⟩ name) := by
  rw [modifier?, modifier?, modifier?, List.filter_append, List.getLast?_append, List.filter_cons]
  split <;> simp [List.getLast?_cons]

theorem modifier?_eq_none_iff (name : String) :
    modifier? ⟨call, back⟩ name = none ↔ hasModifier ⟨call, back⟩ name = false := by
  simp [modifier?, hasModifier]

variable {modifier other : Call} (sameName : other.name = modifier.name)

include sameName

theorem isNamed_of_name_eq (name : String) : other.isNamed name = modifier.isNamed name := by
  rw [Call.isNamed, Call.isNamed, sameName]

theorem hasModifier_replace (name : String) :
    hasModifier ⟨call, front ++ other :: back⟩ name =
      hasModifier ⟨call, front ++ modifier :: back⟩ name := by
  simp only [hasModifier, List.any_append, List.any_cons, isNamed_of_name_eq sameName]

/-- Another modifier of the same name is not seen by attributes of other names. -/
theorem modifier?_replace_of_other {name : String} (unnamed : modifier.isNamed name = false) :
    modifier? ⟨call, front ++ other :: back⟩ name =
      modifier? ⟨call, front ++ modifier :: back⟩ name := by
  rw [modifier?_at, modifier?_at, isNamed_of_name_eq sameName, unnamed]
  rfl

/-- For the length, only the numbers of length modifiers count. -/
theorem length?_replace
    (sameLength : modifier.isOneOf ["length", "maxLength"] = true →
      other.word32? 0 "length" = modifier.word32? 0 "length") :
    length? ⟨call, front ++ other :: back⟩ = length? ⟨call, front ++ modifier :: back⟩ := by
  have otherTest : other.isOneOf ["length", "maxLength"] =
      modifier.isOneOf ["length", "maxLength"] := by
    simp only [Call.isOneOf_pair, isNamed_of_name_eq sameName]
  simp only [length?, ← Call.isOneOf_pair, List.filter_append, List.filter_cons, otherTest]
  split
  next isLength => simp only [List.findSome?_append, List.findSome?_cons, sameLength isLength]
  next => rfl

/-- Behind the last nullable modifier there is none to overrule it. -/
theorem nullable_replace
    (sameFlag : modifier.isNamed "nullable" = true → hasModifier ⟨call, back⟩ "nullable" = false →
      other.flag = modifier.flag) :
    nullable ⟨call, front ++ other :: back⟩ = nullable ⟨call, front ++ modifier :: back⟩ := by
  rw [nullable, nullable, modifier?_at, modifier?_at, isNamed_of_name_eq sameName]
  cases overruled : modifier? ⟨call, back⟩ "nullable" with
  | some later => rfl
  | none =>
      rw [modifier?_eq_none_iff] at overruled
      by_cases isNullable : modifier.isNamed "nullable" = true
      · simp only [isNullable, if_true, Option.none_or, Option.any_some,
          sameFlag isNullable overruled]
      · rw [if_neg isNullable, if_neg isNullable]

/-- Apart from its flag, the column stays the same if a modifier that makes no
reference is replaced by one of its name, with the same length if it has one. -/
theorem column?_replace (noReference : modifier.isOneOf ["foreign", "references"] = false)
    (sameLength : modifier.isOneOf ["length", "maxLength"] = true →
      other.word32? 0 "length" = modifier.word32? 0 "length") :
    column? ⟨call, front ++ other :: back⟩ =
      (column? ⟨call, front ++ modifier :: back⟩).map fun column =>
        { column with nullable := nullable ⟨call, front ++ other :: back⟩ } := by
  rw [Call.isOneOf_pair, Bool.or_eq_false_iff] at noReference
  have sameForeign : foreign? ⟨call, front ++ other :: back⟩ =
      foreign? ⟨call, front ++ modifier :: back⟩ := by
    simp only [foreign?, modifierText?,
      modifier?_replace_of_other call front back sameName noReference.1,
      modifier?_replace_of_other call front back sameName noReference.2]
  have sameKind : isConstraint ⟨call, front ++ other :: back⟩ =
      isConstraint ⟨call, front ++ modifier :: back⟩ := rfl
  have sameTarget : target? ⟨call, front ++ other :: back⟩ =
      target? ⟨call, front ++ modifier :: back⟩ := rfl
  simp only [column?, sameKind, sameTarget, sameForeign,
    length?_replace call front back sameName sameLength,
    hasModifier_replace call front back sameName]
  split
  · rfl
  · rw [Option.map_map]
    rfl

/-- The whole column stays the same if the flag does. -/
theorem column?_replace_of_flag (noReference : modifier.isOneOf ["foreign", "references"] = false)
    (sameLength : modifier.isOneOf ["length", "maxLength"] = true →
      other.word32? 0 "length" = modifier.word32? 0 "length")
    (sameFlag : modifier.isNamed "nullable" = true → hasModifier ⟨call, back⟩ "nullable" = false →
      other.flag = modifier.flag) :
    column? ⟨call, front ++ other :: back⟩ = column? ⟨call, front ++ modifier :: back⟩ := by
  rw [column?_replace call front back sameName noReference sameLength,
    nullable_replace call front back sameName sameFlag]
  cases defined : column? ⟨call, front ++ modifier :: back⟩ with
  | none => rfl
  | some column => rw [Option.map_some, ← nullable_of_column? defined]

end Place

/-! ## Columns -/

/-- The second argument of a call is read as a length and as nothing else. -/
theorem column?_nameArgument_call {call : Call} {label : String}
    (isLength : sameIgnoringCase label "length" = true) (absent : call.named? "length" = none)
    (modifiers : List Call) :
    column? ⟨call.nameArgument 1 label, modifiers⟩ = column? ⟨call, modifiers⟩ := by
  have sameTarget : target? ⟨call.nameArgument 1 label, modifiers⟩ = target? ⟨call, modifiers⟩ :=
    Call.text?_nameArgument_of_ne call label Nat.one_ne_zero
  have sameLength : length? ⟨call.nameArgument 1 label, modifiers⟩ = length? ⟨call, modifiers⟩ := by
    simp only [length?, Call.word32?_nameArgument isLength absent]
  simp only [column?, sameTarget, sameLength]
  rfl

theorem nullable_of_last {modifier : Call} (call : Call) (front : List Call) {back : List Call}
    (ofNullable : modifier.isNamed "nullable" = true)
    (last : hasModifier ⟨call, back⟩ "nullable" = false) :
    nullable ⟨call, front ++ modifier :: back⟩ = modifier.flag := by
  rw [nullable, modifier?_at, (modifier?_eq_none_iff call back "nullable").2 last, ofNullable]
  rfl

/-- A number of a call or of a length modifier may be named, unless the call names
its length already, without a change to the column.  A flag may be named where it
is on, or overruled by a later nullable modifier; where neither holds, the modifier
is switched on and the column becomes nullable. -/
theorem column?_nameArgument (call : Call) (front back : List Call) (label : String) :
    (∀ modifiers, sameIgnoringCase label "length" = true → call.named? "length" = none →
      column? ⟨call.nameArgument 1 label, modifiers⟩ = column? ⟨call, modifiers⟩) ∧
    (∀ modifier : Call, sameIgnoringCase label "length" = true →
      modifier.isOneOf ["length", "maxLength"] = true → modifier.named? "length" = none →
      column? ⟨call, front ++ modifier.nameArgument 0 label :: back⟩ =
        column? ⟨call, front ++ modifier :: back⟩) ∧
    (∀ (modifier : Call) (word : String), modifier.isNamed "nullable" = true →
      modifier.arguments.head? = some (.identifier word) →
      sameIgnoringCase word "true" = true ∨ hasModifier ⟨call, back⟩ "nullable" = true →
      column? ⟨call, front ++ modifier.nameArgument 0 label :: back⟩ =
        column? ⟨call, front ++ modifier :: back⟩) ∧
    (∀ (modifier : Call) (word : String), modifier.isNamed "nullable" = true →
      modifier.arguments.head? = some (.identifier word) →
      sameIgnoringCase word "false" = true → hasModifier ⟨call, back⟩ "nullable" = false →
      (∀ column ∈ column? ⟨call, front ++ modifier :: back⟩, column.nullable = false) ∧
      column? ⟨call, front ++ modifier.nameArgument 0 label :: back⟩ =
        (column? ⟨call, front ++ modifier :: back⟩).map fun column =>
          { column with nullable := true }) := by
  -- A nullable modifier is neither a length nor a part of a reference.
  have apart : ∀ modifier : Call, modifier.isNamed "nullable" = true →
      modifier.isOneOf ["foreign", "references"] = false ∧
        modifier.isOneOf ["length", "maxLength"] = false := by
    intro modifier ofNullable
    rw [← Call.isOneOf_singleton] at ofNullable
    exact ⟨Call.isOneOf_eq_false_of_isOneOf ofNullable (by decide),
      Call.isOneOf_eq_false_of_isOneOf ofNullable (by decide)⟩
  refine ⟨?_, ?_, ?_, ?_⟩
  · intro modifiers isLength absent
    exact column?_nameArgument_call isLength absent modifiers
  · intro modifier isLength ofLength absent
    have notNullable : modifier.isNamed "nullable" = false := by
      rw [← Call.isOneOf_singleton]
      exact Call.isOneOf_eq_false_of_isOneOf ofLength (by decide)
    apply column?_replace_of_flag call front back (Call.name_nameArgument modifier 0 label)
    · exact Call.isOneOf_eq_false_of_isOneOf ofLength (by decide)
    · exact fun _ => Call.word32?_nameArgument isLength absent 0
    · exact fun ofNullable => absurd ofNullable (by simp [notNullable])
  · intro modifier word ofNullable flagged on
    obtain ⟨noReference, noLength⟩ := apart modifier ofNullable
    apply column?_replace_of_flag call front back (Call.name_nameArgument modifier 0 label)
      noReference
    · exact fun ofLength => absurd ofLength (by simp [noLength])
    · intro _ last
      rw [Call.flag_nameArgument, Call.flag_of_word flagged]
      rcases on with isTrue | overruled
      · rw [sameIgnoringCase, sameIgnoringCase_iff.1 isTrue]
        decide
      · rw [last] at overruled
        exact Bool.noConfusion overruled
  · intro modifier word ofNullable flagged off last
    obtain ⟨noReference, noLength⟩ := apart modifier ofNullable
    have named := column?_replace call front back (Call.name_nameArgument modifier 0 label)
      noReference fun ofLength => absurd ofLength (by simp [noLength])
    rw [nullable_of_last call front (by exact ofNullable) last, Call.flag_nameArgument] at named
    refine ⟨?_, named⟩
    intro column defined
    rw [nullable_of_column? defined, nullable_of_last call front ofNullable last,
      Call.flag_of_word flagged, off]
    rfl

/-- A length that does not fit in 32 bits is named, and flags of both kinds. -/
theorem column?_nameArgument_length_and_flags :
    let call : Call := ⟨"string", [.text "email", .number "80"], 1⟩
    let length : Call := ⟨"maxLength", [.number "4294967296"], 1⟩
    let on : Call := ⟨"nullable", [.identifier "True"], 1⟩
    let off : Call := ⟨"nullable", [.identifier "FALSE"], 1⟩
    (call.named? "length" = none ∧
      column? ⟨call.nameArgument 1 "length", [on]⟩ =
        some { name := "email", type := .string, length := some 80, nullable := true }) ∧
    (length.isOneOf ["length", "maxLength"] = true ∧ length.named? "length" = none ∧
      column? ⟨call, [off] ++ length.nameArgument 0 "Length" :: [on]⟩ =
        some { name := "email", type := .string, length := some 80, nullable := true }) ∧
    (off.isNamed "nullable" = true ∧ off.arguments.head? = some (.identifier "FALSE") ∧
      hasModifier ⟨call, [on]⟩ "nullable" = true ∧
      column? ⟨call, [] ++ off.nameArgument 0 "value" :: [on]⟩ =
        some { name := "email", type := .string, length := some 80, nullable := true }) ∧
    (sameIgnoringCase "FALSE" "false" = true ∧ hasModifier ⟨call, [length]⟩ "nullable" = false ∧
      column? ⟨call, [on] ++ off :: [length]⟩ =
        some { name := "email", type := .string, length := some 80 } ∧
      column? ⟨call, [on] ++ off.nameArgument 0 "value" :: [length]⟩ =
        some { name := "email", type := .string, length := some 80, nullable := true }) := by
  intro call length on off
  have lengths : call.named? "length" = none ∧ length.named? "length" = none ∧
      length.isOneOf ["length", "maxLength"] = true ∧
      sameIgnoringCase "Length" "length" = true := by decide
  have flags : off.isNamed "nullable" = true ∧ sameIgnoringCase "FALSE" "false" = true ∧
      hasModifier ⟨call, [on]⟩ "nullable" = true ∧
      hasModifier ⟨call, [length]⟩ "nullable" = false := by decide
  obtain ⟨callUnnamed, lengthUnnamed, ofLength, isLength⟩ := lengths
  obtain ⟨ofNullable, isFalse, overruled, last⟩ := flags
  have namedCall := (column?_nameArgument call [] [] "length").1 [on]
    (sameIgnoringCase_self "length") callUnnamed
  have namedLength := (column?_nameArgument call [off] [on] "Length").2.1 length isLength ofLength
    lengthUnnamed
  have namedFlag := (column?_nameArgument call [] [on] "value").2.2.1 off "FALSE" ofNullable rfl
    (.inr overruled)
  have switched := (column?_nameArgument call [on] [length] "value").2.2.2 off "FALSE" ofNullable
    rfl isFalse last
  have plain : column? ⟨call, [on] ++ off :: [length]⟩ =
      some { name := "email", type := .string, length := some 80 } := by decide
  refine ⟨⟨callUnnamed, namedCall.trans (by decide)⟩,
    ⟨ofLength, lengthUnnamed, namedLength.trans (by decide)⟩,
    ⟨ofNullable, rfl, overruled, namedFlag.trans (by decide)⟩, isFalse, last, plain, ?_⟩
  rw [switched.2, plain]
  rfl

/-- A nullable modifier that is switched off by position is switched on by name. -/
theorem column?_of_named_flag :
    let call : Call := ⟨"string", [.text "email"], 1⟩
    let off : Call := ⟨"nullable", [.identifier "false"], 1⟩
    off.named? "value" = none ∧
    off.nameArgument 0 "value" = ⟨"nullable", [.named "value" (.identifier "false")], 1⟩ ∧
    column? ⟨call, [off]⟩ = some { name := "email", type := .string } ∧
    column? ⟨call, [off.nameArgument 0 "value"]⟩ =
      some { name := "email", type := .string, nullable := true } := by
  decide

end Statement

end FormRules
