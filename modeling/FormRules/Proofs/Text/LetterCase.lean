import FormRules.Text.Case

/-!
Contract: small forms do not depend on the case of ASCII letters.

Owns:
- what a capital and its small letter have in common;
- the small form of a text whose ASCII capitals are made small first;
- the texts that are equal up to case: their small forms are the same.

Does not own: letters beyond ASCII, whose case does make a difference.

The rule for the final sigma looks at the letters around it, so it has to be
carried through the text on both sides.  It asks whether they are cased, which a
letter is in either case.
-/

namespace FormRules.Text

/-- What is asked of a character does not tell a capital from its small letter. -/
private theorem capitals_folded : ∀ index < 26,
    (Char.ofNat (0x41 + index)).toLower.toLower = (Char.ofNat (0x41 + index)).toLower ∧
      lower (Char.ofNat (0x41 + index)).toLower = lower (Char.ofNat (0x41 + index)) ∧
      isCased (Char.ofNat (0x41 + index)).toLower = isCased (Char.ofNat (0x41 + index)) ∧
      isCaseIgnorable (Char.ofNat (0x41 + index)).toLower =
        isCaseIgnorable (Char.ofNat (0x41 + index)) ∧
      ((Char.ofNat (0x41 + index)).toLower = 'Σ' ↔ Char.ofNat (0x41 + index) = 'Σ') := by
  decide

theorem toLower_cases (character : Char) :
    character.toLower = character ∨ ∃ index < 26, character = Char.ofNat (0x41 + index) := by
  by_cases capital : character.val ≥ 'A'.val ∧ character.val ≤ 'Z'.val
  · obtain ⟨atLeast, atMost⟩ := capital
    rw [ge_iff_le, UInt32.le_iff_toNat_le] at atLeast
    rw [UInt32.le_iff_toNat_le] at atMost
    have back : 0x41 + (character.toNat - 0x41) = character.toNat := Nat.add_sub_cancel' atLeast
    refine .inr ⟨character.toNat - 0x41, ?_, ?_⟩
    · exact Nat.sub_lt_left_of_lt_add atLeast (Nat.lt_succ_of_le atMost)
    · rw [back, Char.ofNat_toNat]
  · exact .inl (dif_neg capital)

theorem folded_toLower (character : Char) :
    character.toLower.toLower = character.toLower ∧
      lower character.toLower = lower character ∧
      isCased character.toLower = isCased character ∧
      isCaseIgnorable character.toLower = isCaseIgnorable character ∧
      (character.toLower = 'Σ' ↔ character = 'Σ') := by
  rcases toLower_cases character with same | ⟨index, small, rfl⟩
  · simp only [same, and_self]
  · exact capitals_folded index small

theorem casedNext_map_toLower (text : List Char) :
    casedNext (text.map Char.toLower) = casedNext text := by
  have sameTest : isCaseIgnorable ∘ Char.toLower = isCaseIgnorable :=
    funext fun character => (folded_toLower character).2.2.2.1
  rw [casedNext, casedNext, List.dropWhile_map, sameTest]
  cases text.dropWhile isCaseIgnorable with
  | nil => rfl
  | cons next rest => exact (folded_toLower next).2.2.1

theorem lowercaseAfter_map_toLower (before text : List Char) :
    lowercaseAfter (before.map Char.toLower) (text.map Char.toLower) =
      lowercaseAfter before text := by
  induction text generalizing before with
  | nil => rfl
  | cons character rest inductionHypothesis =>
      obtain ⟨_, sameLower, _, _, sigma⟩ := folded_toLower character
      have step := inductionHypothesis (character :: before)
      rw [List.map_cons] at step
      rw [List.map_cons, lowercaseAfter, lowercaseAfter, step, sameLower, casedNext_map_toLower,
        casedNext_map_toLower]
      simp only [sigma]

/-- A text with its ASCII capitals made small. -/
def folded (text : String) : String :=
  String.ofList (asciiFold text)

theorem lowercase_folded (text : String) : lowercase (folded text) = lowercase text := by
  have same := lowercaseAfter_map_toLower [] text.toList
  rw [List.map_nil] at same
  rw [lowercase, lowercase, folded, asciiFold, String.toList_ofList, same]

theorem asciiFold_folded (text : String) : asciiFold (folded text) = asciiFold text := by
  rw [asciiFold, folded, String.toList_ofList, asciiFold, List.map_map]
  congr 1
  exact funext fun character => (folded_toLower character).1

theorem folded_eq_iff {left right : String} :
    folded left = folded right ↔ sameIgnoringCase left right = true := by
  rw [folded, folded, String.ofList_inj, sameIgnoringCase_iff]

end FormRules.Text
