import FormRules.Text.Case

/-!
Contract: texts without capitals.

Owns:
- the letters, digits and underscores that both case conversions keep;
- the conversions of a text that is made of them.

Does not own: the conversion of any other character.
-/

namespace FormRules.Text

/-- A small ASCII letter, a digit or an underscore. -/
def isSmall (character : Char) : Bool :=
  ('a' ≤ character && character ≤ 'z') || character.isDigit || character == '_'

/-- The characters below U+0080, each decided by itself. -/
private theorem ascii_small : ∀ code < 0x80, isSmall (Char.ofNat code) = true →
    lower (Char.ofNat code) = [Char.ofNat code] ∧
      (Char.ofNat code).toLower = Char.ofNat code ∧ Char.ofNat code ≠ 'Σ' := by
  decide +kernel

theorem toNat_lt_of_isSmall {character : Char} (small : isSmall character = true) :
    character.toNat < 0x80 := by
  simp only [isSmall, Char.isDigit, Bool.or_eq_true, Bool.and_eq_true, decide_eq_true_eq,
    beq_iff_eq, Char.le_def, UInt32.le_iff_toNat_le] at small
  rcases small with (⟨_, upTo⟩ | ⟨_, upTo⟩) | same
  · exact Nat.lt_of_le_of_lt upTo (by decide)
  · exact Nat.lt_of_le_of_lt upTo (by decide)
  · rw [same]
    decide

theorem case_of_isSmall {character : Char} (small : isSmall character = true) :
    lower character = [character] ∧ character.toLower = character ∧ character ≠ 'Σ' := by
  have decided := ascii_small character.toNat (toNat_lt_of_isSmall small)
  rw [Char.ofNat_toNat] at decided
  exact decided small

theorem lowercaseAfter_of_small {text : List Char} (before : List Char)
    (small : ∀ character ∈ text, isSmall character = true) :
    lowercaseAfter before text = text := by
  induction text generalizing before with
  | nil => rfl
  | cons first rest inductionHypothesis =>
      obtain ⟨kept, _, noSigma⟩ := case_of_isSmall (small first List.mem_cons_self)
      have restSmall : ∀ character ∈ rest, isSmall character = true := fun character member =>
        small character (List.mem_cons_of_mem first member)
      rw [lowercaseAfter, if_neg noSigma, kept, inductionHypothesis (first :: before) restSmall,
        List.singleton_append]

theorem lowercase_of_small {text : String}
    (small : ∀ character ∈ text.toList, isSmall character = true) :
    lowercase text = text := by
  rw [lowercase, lowercaseAfter_of_small [] small, String.ofList_toList]

theorem asciiFold_of_small {text : String}
    (small : ∀ character ∈ text.toList, isSmall character = true) :
    asciiFold text = text.toList := by
  have kept : ∀ character ∈ text.toList, character.toLower = id character := by
    intro character member
    exact (case_of_isSmall (small character member)).2.1
  rw [asciiFold, List.map_congr_left kept, List.map_id]

/-- Without capitals, texts that agree up to case are the same. -/
theorem sameIgnoringCase_of_small {left right : String}
    (leftSmall : ∀ character ∈ left.toList, isSmall character = true)
    (rightSmall : ∀ character ∈ right.toList, isSmall character = true) :
    sameIgnoringCase left right = true ↔ left = right := by
  rw [sameIgnoringCase_iff, asciiFold_of_small leftSmall, asciiFold_of_small rightSmall,
    String.toList_inj]

end FormRules.Text
