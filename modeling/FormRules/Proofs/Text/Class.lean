import FormRules.Proofs.Text.CodePoints
import FormRules.Text.Blank
import FormRules.Text.Numeric

/-!
Contract: how the classes of characters lie to each other.

Owns: the disjointness of blanks from word characters.

Does not own: the tables that the classes are made of.
-/

namespace FormRules.Text

private theorem wordRanges_apart :
    bits (alphabeticRanges ++ numericRanges) &&& bits blankRanges = 0 := by
  decide +kernel

/-- A small code point is blank or part of a word, not both. -/
private theorem ascii_blank_or_word :
    ∀ code < 0x80, isBlank (Char.ofNat code) = false ∨ isWordCharacter (Char.ofNat code) = false := by
  decide +kernel

theorem isBlank_eq_false_of_isWordCharacter {character : Char}
    (word : isWordCharacter character = true) :
    isBlank character = false := by
  by_cases ascii : character.toNat < 0x80
  · have either := ascii_blank_or_word character.toNat ascii
    rw [Char.ofNat_toNat] at either
    exact either.resolve_right (by simp [word])
  · have notUnderscore : (character == '_') = false := by
      rw [beq_eq_false_iff_ne]
      rintro rfl
      exact ascii (by decide)
    rw [isWordCharacter, notUnderscore, Bool.or_false, isAlphanumeric, isAlphabetic, isNumeric,
      if_neg ascii, if_neg ascii, inRanges, inRanges, ← List.any_append] at word
    rw [isBlank, if_neg ascii]
    exact inRanges_eq_false_of_apart wordRanges_apart word

end FormRules.Text
