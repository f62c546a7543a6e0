import FormRules.Statement

/-!
Contract: what a column reads from a chain of modifiers.

Owns:
- the modifiers that attributes are read from, and those of them whose order may
  matter;
- agreement of two chains in all that a column reads;
- the columns of chains that differ by an unread modifier, or by the order of two
  neighbours.

Does not own: the arguments of a modifier.

Each attribute has a rule of precedence of its own: the first number, the last
flag, the last literal, or whether there is any such modifier at all.  None of
these rules looks at modifiers of another attribute, so it is enough to compare
the chains attribute by attribute.
-/

namespace FormRules

open FormRules.Text

/-- The modifiers whose order may matter, those of one attribute together. -/
def orderedModifiers : List (List String) :=
  [["length", "maxLength"], ["nullable"], ["foreign"], ["references"]]

/-- The modifiers that the attributes of a column are read from. -/
def attributeModifiers : List String :=
  "unique" :: orderedModifiers.flatten

def Call.isOneOf (call : Call) (names : List String) : Bool :=
  names.any fun name => call.isNamed name

theorem Call.isOneOf_singleton (call : Call) (name : String) :
    call.isOneOf [name] = call.isNamed name :=
  Bool.or_false _

theorem Call.isOneOf_pair (call : Call) (first second : String) :
    call.isOneOf [first, second] = (call.isNamed first || call.isNamed second) := by
  simp [isOneOf]

theorem Call.isOneOf_eq_false_iff {call : Call} {names : List String} :
    call.isOneOf names = false ↔ ∀ name ∈ names, call.isNamed name = false := by
  simp [isOneOf]

/-- A call of one of some names has none of the names that differ from all of
them. -/
theorem Call.isOneOf_eq_false_of_isOneOf {call : Call} {names others : List String}
    (isOne : call.isOneOf names = true)
    (apart : ∀ name ∈ names, ∀ other ∈ others, sameIgnoringCase name other = false) :
    call.isOneOf others = false := by
  obtain ⟨name, member, named⟩ := List.any_eq_true.1 isOne
  rw [isOneOf_eq_false_iff]
  intro other otherMember
  have different := apart name member other otherMember
  rw [isNamed, sameIgnoringCase_iff] at named
  rw [isNamed, sameIgnoringCase, named]
  exact different

/-! ## Agreement -/

/-- Both chains have the same modifiers of every attribute in the same order, and
agree in whether a column is unique. -/
structure ReadAlike (left right : List Call) : Prop where
  ordered : ∀ group ∈ orderedModifiers,
    (left.filter fun modifier => modifier.isOneOf group) =
      right.filter fun modifier => modifier.isOneOf group
  unique : (left.any fun modifier => modifier.isNamed "unique") =
    right.any fun modifier => modifier.isNamed "unique"

namespace ReadAlike

variable {left right : List Call} (alike : ReadAlike left right) (call : Call)

include alike

theorem length? : Statement.length? ⟨call, left⟩ = Statement.length? ⟨call, right⟩ := by
  have lengths := alike.ordered ["length", "maxLength"] (by simp [orderedModifiers])
  simp only [Call.isOneOf_pair] at lengths
  rw [Statement.length?, Statement.length?, lengths]

theorem modifier? {name : String} (isOrdered : [name] ∈ orderedModifiers) :
    Statement.modifier? ⟨call, left⟩ name = Statement.modifier? ⟨call, right⟩ name := by
  have modifiers := alike.ordered [name] isOrdered
  simp only [Call.isOneOf_singleton] at modifiers
  rw [Statement.modifier?, Statement.modifier?, modifiers]

theorem nullable : Statement.nullable ⟨call, left⟩ = Statement.nullable ⟨call, right⟩ := by
  rw [Statement.nullable, Statement.nullable,
    alike.modifier? call (by simp [orderedModifiers])]

theorem foreign? : Statement.foreign? ⟨call, left⟩ = Statement.foreign? ⟨call, right⟩ := by
  simp only [Statement.foreign?, Statement.modifierText?]
  rw [alike.modifier? call (show ["foreign"] ∈ orderedModifiers by simp [orderedModifiers]),
    alike.modifier? call (show ["references"] ∈ orderedModifiers by simp [orderedModifiers])]

/-- A column depends on nothing else of its modifiers. -/
theorem column? : Statement.column? ⟨call, left⟩ = Statement.column? ⟨call, right⟩ := by
  have uniques : Statement.hasModifier ⟨call, left⟩ "unique" =
      Statement.hasModifier ⟨call, right⟩ "unique" := alike.unique
  simp only [Statement.column?, alike.length? call, alike.nullable call, alike.foreign? call,
    uniques]
  rfl

end ReadAlike

/-! ## Rearranged chains -/

section Rearranged

variable (front back : List Call)

/-- A modifier that no attribute is read from is not seen. -/
theorem readAlike_insert {modifier : Call}
    (unread : ∀ name ∈ attributeModifiers, modifier.isNamed name = false) :
    ReadAlike (front ++ modifier :: back) (front ++ back) := by
  obtain ⟨notUnique, others⟩ := List.forall_mem_cons.1 unread
  constructor
  · intro group isOrdered
    have notOne : modifier.isOneOf group = false :=
      Call.isOneOf_eq_false_iff.2 fun name member =>
        others name (List.mem_flatten.2 ⟨group, isOrdered, member⟩)
    rw [List.filter_append, List.filter_cons, notOne, List.filter_append]
    rfl
  · rw [List.any_append, List.any_cons, notUnique, Bool.false_or, List.any_append]

/-- Neighbours that are not of one attribute pass each other. -/
theorem readAlike_swap {first second : Call}
    (apart : ∀ group ∈ orderedModifiers,
      ¬(first.isOneOf group = true ∧ second.isOneOf group = true)) :
    ReadAlike (front ++ first :: second :: back) (front ++ second :: first :: back) := by
  constructor
  · intro group isOrdered
    have notBoth := apart group isOrdered
    rw [List.filter_append, List.filter_append]
    congr 1
    by_cases isFirst : first.isOneOf group = true
    · have notSecond : ¬second.isOneOf group = true := fun isSecond =>
        notBoth ⟨isFirst, isSecond⟩
      simp [List.filter_cons, notSecond]
    · simp [List.filter_cons, isFirst]
  · simp only [List.any_append, List.any_cons, Bool.or_left_comm]

/-- The column of a statement stays the same when a modifier that no attribute is
read from is put into the chain or taken out of it, and when two neighbours change
places that are not modifiers of one attribute. -/
theorem Statement.column?_rearranged (call : Call) :
    (∀ modifier : Call, (∀ name ∈ attributeModifiers, modifier.isNamed name = false) →
      Statement.column? ⟨call, front ++ modifier :: back⟩ =
        Statement.column? ⟨call, front ++ back⟩) ∧
    (∀ first second : Call,
      (∀ group ∈ orderedModifiers,
        ¬(first.isOneOf group = true ∧ second.isOneOf group = true)) →
      Statement.column? ⟨call, front ++ first :: second :: back⟩ =
        Statement.column? ⟨call, front ++ second :: first :: back⟩) := by
  constructor
  · intro modifier unread
    exact (readAlike_insert front back unread).column? call
  · intro first second apart
    exact (readAlike_swap front back apart).column? call

end Rearranged

/-- A comment is put between a flag and a length; a reference in capitals and a
unique modifier change places. -/
theorem Statement.column?_rearranged_comment :
    let call : Call := ⟨"string", [.text "email", .number "60"], 1⟩
    let nullable : Call := ⟨"nullable", [.identifier "False"], 1⟩
    let length : Call := ⟨"length", [.number "20"], 1⟩
    let comment : Call := ⟨"comment", [.text "unique"], 1⟩
    let foreign : Call := ⟨"FOREIGN", [.text "users"], 1⟩
    let unique : Call := ⟨"unique", [], 1⟩
    ((∀ name ∈ attributeModifiers, comment.isNamed name = false) ∧
      Statement.column? ⟨call, [nullable, comment, length]⟩ =
        some { name := "email", type := .string, length := some 20 }) ∧
    (∀ group ∈ orderedModifiers,
      ¬(foreign.isOneOf group = true ∧ unique.isOneOf group = true)) ∧
    Statement.column? ⟨call, [nullable, unique, foreign, length]⟩ =
      some { name := "email", type := .string, length := some 20, unique := true
             foreign := some ⟨"users", none⟩ } := by
  intro call nullable length comment foreign unique
  have unread : ∀ name ∈ attributeModifiers, comment.isNamed name = false := by decide
  have apart : ∀ group ∈ orderedModifiers,
      ¬(foreign.isOneOf group = true ∧ unique.isOneOf group = true) := by decide
  have inserted := (Statement.column?_rearranged [nullable] [length] call).1 comment unread
  have swapped := (Statement.column?_rearranged [nullable] [length] call).2 foreign unique apart
  exact ⟨⟨unread, inserted.trans (by decide)⟩, apart, swapped.symm.trans (by decide)⟩

/-- Of two lengths the first one counts, so these do not change places. -/
example : Statement.column? ⟨⟨"string", [.text "a"], 1⟩,
      [⟨"length", [.number "1"], 1⟩, ⟨"maxLength", [.number "2"], 1⟩]⟩ ≠
    Statement.column? ⟨⟨"string", [.text "a"], 1⟩,
      [⟨"maxLength", [.number "2"], 1⟩, ⟨"length", [.number "1"], 1⟩]⟩ := by
  decide

end FormRules
