import FormRules.Proofs.Text.CaseMap
import FormRules.Proofs.Text.LetterCase

/-!
Contract: a text in small letters stays as it is when it is made small again.

Owns:
- the characters that the small forms are made of, and that none of them has another
  small form;
- `lowercase_lowercase`.

Does not own: the names that are kept in small letters.

A capital may be the image of no character, and sigma least of all, because the rule
for it looks at the letters around it.  So the sources of the tables are compared with
their images, all at once, as the bits of two numbers.
-/

namespace FormRules.Text

/-! ## Sources and images -/

/-- The code points at the steps of a shift, counted from some start. -/
def CaseShift.points (shift : CaseShift) (start : Nat) : List (Nat × Nat) :=
  ((List.range (shift.last - shift.first + 1)).filter (· % shift.step == 0)).map
    fun distance => (start + distance, start + distance)

theorem CaseShift.inRanges_points {shift : CaseShift} {code : Nat}
    (covers : shift.covers code = true) (start : Nat) :
    inRanges (shift.points start) (start + (code - shift.first)) = true := by
  simp only [CaseShift.covers, Bool.and_eq_true, decide_eq_true_eq] at covers
  obtain ⟨⟨atLeast, atMost⟩, onStep⟩ := covers
  have inside : code - shift.first < shift.last - shift.first + 1 := by omega
  rw [inRanges, List.any_eq_true]
  refine ⟨_, List.mem_map_of_mem (List.mem_filter.2 ⟨List.mem_range.2 inside, onStep⟩), ?_⟩
  simp

/-- The characters that have another small form. -/
def capitalBits : Nat :=
  bits ((0x41, 0x5A) :: (0x130, 0x130) :: lowerShifts.flatMap fun shift => shift.points shift.first)

/-- The characters that a shift leads to. -/
def imageBits : Nat :=
  bits (lowerShifts.flatMap fun shift => shift.points shift.image)

private theorem capitalBits_apart : capitalBits &&& imageBits = 0 ∧
    capitalBits.testBit 0x3A3 = true ∧ capitalBits.testBit 0x3C2 = false ∧
    capitalBits.testBit 0x3C3 = false ∧ capitalBits.testBit 0x307 = false ∧
    capitalBits.testBit 0x69 = false ∧ capitalBits.testBit 0 = false := by
  decide +kernel

theorem testBit_of_covers {shift : CaseShift} {code : Nat} (listed : shift ∈ lowerShifts)
    (covers : shift.covers code = true) :
    capitalBits.testBit code = true ∧ imageBits.testBit (shift.apply code) = true := by
  have point (start : CaseShift → Nat) : inRanges
      (lowerShifts.flatMap fun shift => shift.points (start shift))
      (start shift + (code - shift.first)) = true := by
    have inShift := shift.inRanges_points covers (start shift)
    rw [inRanges, List.any_eq_true] at inShift ⊢
    obtain ⟨range, member, inside⟩ := inShift
    exact ⟨range, List.mem_flatMap.2 ⟨shift, listed, member⟩, inside⟩
  constructor
  · have back : shift.first + (code - shift.first) = code := by
      simp only [CaseShift.covers, Bool.and_eq_true, decide_eq_true_eq] at covers
      omega
    have source := point CaseShift.first
    rw [back] at source
    rw [capitalBits, bits, bits, Nat.testBit_or, Nat.testBit_or, testBit_bits, source,
      Bool.or_true, Bool.or_true]
  · rw [imageBits, testBit_bits]
    exact point CaseShift.image

/-! ## Characters without another small form -/

/-- The character is its own small form, wherever it stands. -/
def IsLow (character : Char) : Prop :=
  lower character = [character] ∧ character ≠ 'Σ'

theorem isLow_of_testBit {character : Char}
    (noCapital : capitalBits.testBit character.toNat = false) : IsLow character := by
  refine ⟨?_, ?_⟩
  · by_cases ascii : character.toNat < 0x80
    · rw [lower, if_pos ascii]
      rcases toLower_cases character with same | ⟨index, small, rfl⟩
      · rw [same]
      · have code : (Char.ofNat (0x41 + index)).toNat = 0x41 + index :=
          toNat_ofNat_of_isValidChar (.inl (by omega))
        rw [code, capitalBits, bits, Nat.testBit_or, testBit_spanBits,
          decide_eq_true (show 0x41 ≤ 0x41 + index by omega),
          decide_eq_true (show 0x41 + index ≤ 0x5A by omega)] at noCapital
        cases noCapital
    · have image := isImage_lower (Nat.le_of_not_lt ascii)
      generalize same : lower character = images at image
      cases image with
      | kept => rfl
      | shifted listed covers =>
          rw [(testBit_of_covers listed covers).1] at noCapital
          cases noCapital
      | expanded listed =>
          rw [lowerExpansions, List.mem_singleton, Prod.mk.injEq] at listed
          rw [listed.1, capitalBits, bits, bits, Nat.testBit_or, Nat.testBit_or, testBit_spanBits,
            testBit_spanBits, decide_eq_true (Nat.le_refl 0x130), Bool.and_self, Bool.true_or,
            Bool.or_true] at noCapital
          cases noCapital
  · rintro rfl
    rw [show 'Σ'.toNat = 0x3A3 from rfl, capitalBits_apart.2.1] at noCapital
    cases noCapital

theorem not_capital_of_image {code : Nat} (image : imageBits.testBit code = true) :
    capitalBits.testBit code = false := by
  have common : (capitalBits &&& imageBits).testBit code = false := by
    rw [capitalBits_apart.1, Nat.zero_testBit]
  rwa [Nat.testBit_and, image, Bool.and_true] at common

/-- The small form of a character consists of characters without another one. -/
theorem isLow_of_mem_lower {character image : Char} (notSigma : character ≠ 'Σ')
    (member : image ∈ lower character) : IsLow image := by
  by_cases ascii : character.toNat < 0x80
  · obtain ⟨_, sameLower, _, _, sigma⟩ := folded_toLower character
    have small : lower character = [character.toLower] := by rw [lower, if_pos ascii]
    rw [small, List.mem_singleton] at member
    rw [member]
    exact ⟨sameLower.trans small, fun isSigma => notSigma (sigma.1 isSigma)⟩
  · obtain ⟨_, _, _, _, noDot, noLetter, noEnd⟩ := capitalBits_apart
    have form := isImage_lower (Nat.le_of_not_lt ascii)
    generalize same : lower character = images at form member
    cases form with
    | kept =>
        rw [List.mem_singleton.1 member]
        exact ⟨same, notSigma⟩
    | shifted listed covers =>
        have noCapital := not_capital_of_image (testBit_of_covers listed covers).2
        rw [List.mem_singleton] at member
        apply isLow_of_testBit
        by_cases proper : image.toNat = 0
        · rw [proper, noEnd]
        · rw [member] at proper ⊢
          rwa [toNat_ofNat_of_ne_zero proper]
    | expanded listed =>
        rw [lowerExpansions, List.mem_singleton, Prod.mk.injEq] at listed
        rw [listed.2, List.map_cons, List.map_singleton, List.mem_cons,
          List.mem_singleton] at member
        rcases member with rfl | rfl
        · exact isLow_of_testBit noLetter
        · exact isLow_of_testBit noDot

/-! ## Texts -/

theorem isLow_of_mem_lowercaseAfter {image : Char} {before text : List Char}
    (member : image ∈ lowercaseAfter before text) : IsLow image := by
  induction text generalizing before with
  | nil => cases member
  | cons character rest inductionHypothesis =>
      rw [lowercaseAfter, List.mem_append] at member
      rcases member with here | behind
      · obtain ⟨_, _, final, medial, _⟩ := capitalBits_apart
        split at here
        next =>
          rw [List.mem_singleton] at here
          rw [here]
          split
          next => exact isLow_of_testBit final
          next => exact isLow_of_testBit medial
        next notSigma => exact isLow_of_mem_lower notSigma here
      · exact inductionHypothesis behind

theorem lowercaseAfter_of_isLow {before text : List Char}
    (low : ∀ character ∈ text, IsLow character) : lowercaseAfter before text = text := by
  induction text generalizing before with
  | nil => rfl
  | cons character rest inductionHypothesis =>
      rw [List.forall_mem_cons] at low
      obtain ⟨⟨same, notSigma⟩, lowRest⟩ := low
      rw [lowercaseAfter, if_neg notSigma, same, inductionHypothesis lowRest,
        List.singleton_append]

@[simp]
theorem lowercase_lowercase (text : String) : lowercase (lowercase text) = lowercase text := by
  rw [lowercase, lowercase, String.toList_ofList,
    lowercaseAfter_of_isLow fun _ => isLow_of_mem_lowercaseAfter]

end FormRules.Text
