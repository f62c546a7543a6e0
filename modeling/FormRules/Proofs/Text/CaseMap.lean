import FormRules.Proofs.Text.CodePoints
import FormRules.Text.Alphabetic
import FormRules.Text.CaseMap

/-!
Contract: what the case conversions make of letters, and of everything else.

Owns:
- the ways in which a conversion finds the images of a character;
- letters become letters: one in small letters, and in capitals one that
  further characters may follow;
- every other character is kept as it is.

Does not own: where in a word a character stands.

The one letter with a small form of two characters is İ, and the second of them
is no letter.  It is the small form of no character itself.

The tables are checked against all letters at once: for the ranges of letters one
by one there are too many rows.
-/

namespace FormRules.Text

/-! ## Images -/

/-- What a conversion with the given tables makes of a character. -/
inductive IsImage (expansions : List (Nat × List Nat)) (shifts : List CaseShift)
    (character : Char) : List Char → Prop where
  | expanded {codes : List Nat} (listed : (character.toNat, codes) ∈ expansions) :
      IsImage expansions shifts character (codes.map Char.ofNat)
  | shifted {shift : CaseShift} (listed : shift ∈ shifts)
      (covers : shift.covers character.toNat = true) :
      IsImage expansions shifts character [Char.ofNat (shift.apply character.toNat)]
  | kept (unlisted : expansions.lookup character.toNat = none) :
      IsImage expansions shifts character [character]

section Images

variable {character : Char}

private theorem isImage_of_tables (expansions : List (Nat × List Nat)) (shifts : List CaseShift) :
    IsImage expansions shifts character
      ((match expansions.lookup character.toNat with
        | some image => image
        | none =>
            match shifts.find? (fun shift : CaseShift => shift.covers character.toNat) with
            | some shift => [shift.apply character.toNat]
            | none => [character.toNat]).map Char.ofNat) := by
  split
  next codes found =>
    obtain ⟨front, back, rows, _⟩ := List.lookup_eq_some_iff.1 found
    exact .expanded (by simp [rows])
  next unlisted =>
    split
    next shift found =>
      exact .shifted (List.mem_of_find?_eq_some found)
        (List.find?_some (p := fun shift : CaseShift => shift.covers character.toNat) found)
    next =>
      rw [List.map_singleton, Char.ofNat_toNat]
      exact .kept unlisted

theorem isImage_lower (beyond : 0x80 ≤ character.toNat) :
    IsImage lowerExpansions lowerShifts character (lower character) := by
  rw [lower, if_neg (Nat.not_lt.2 beyond)]
  exact isImage_of_tables lowerExpansions lowerShifts

theorem isImage_upper (beyond : 0x80 ≤ character.toNat) :
    IsImage upperExpansions upperShifts character (upper character) := by
  rw [upper, if_neg (Nat.not_lt.2 beyond)]
  exact isImage_of_tables upperExpansions upperShifts

end Images

/-! ## Letters in the tables -/

/-- All letters, those of ASCII among them. -/
def letterBits : Nat :=
  bits ((0x41, 0x5A) :: (0x61, 0x7A) :: alphabeticRanges)

/-- All code points from the first to the last one are letters. -/
def isSpanOfLetters (first last : Nat) : Bool :=
  letterBits &&& spanBits first last == spanBits first last

/-- All code points that a shift covers, and all their images, are letters. -/
def CaseShift.ofLetters (shift : CaseShift) : Bool :=
  (isSpanOfLetters shift.first shift.last &&
    isSpanOfLetters shift.image (shift.image + (shift.last - shift.first))) ||
  (List.range (shift.last - shift.first + 1)).all fun distance =>
    distance % shift.step != 0 ||
      (letterBits.testBit (shift.first + distance) && letterBits.testBit (shift.image + distance))

theorem testBit_of_isSpanOfLetters {first last code : Nat}
    (span : isSpanOfLetters first last = true) (atLeast : first ≤ code) (atMost : code ≤ last) :
    letterBits.testBit code = true := by
  have inSpan : (spanBits first last).testBit code = true := by
    rw [testBit_spanBits, decide_eq_true atLeast, decide_eq_true atMost]
    rfl
  rw [← eq_of_beq span, Nat.testBit_and, Bool.and_eq_true] at inSpan
  exact inSpan.1

/-- A shift of letters takes a letter to a letter. -/
theorem CaseShift.testBit_of_ofLetters {shift : CaseShift} {code : Nat}
    (letters : shift.ofLetters = true) (covers : shift.covers code = true) :
    letterBits.testBit code = true ∧ letterBits.testBit (shift.apply code) = true := by
  simp only [CaseShift.covers, Bool.and_eq_true, decide_eq_true_eq, beq_iff_eq] at covers
  obtain ⟨⟨atLeast, atMost⟩, onStep⟩ := covers
  rw [CaseShift.ofLetters, Bool.or_eq_true] at letters
  rcases letters with spans | each
  · rw [Bool.and_eq_true] at spans
    refine ⟨testBit_of_isSpanOfLetters spans.1 atLeast atMost,
      testBit_of_isSpanOfLetters spans.2 ?_ ?_⟩
    all_goals
      simp only [CaseShift.apply]
      omega
  · have here := List.all_eq_true.1 each (code - shift.first) (List.mem_range.2 (by omega))
    have back : shift.first + (code - shift.first) = code := by omega
    rw [onStep, back] at here
    simpa [CaseShift.apply] using here

/-- The shifts take letters to letters, and none of them to İ. -/
private theorem shifts_ofLetters : ∀ shift ∈ lowerShifts ++ upperShifts,
    shift.ofLetters = true ∧
      ¬(shift.image ≤ 0x130 ∧ 0x130 ≤ shift.image + (shift.last - shift.first)) := by
  decide +kernel

/-- The first image of an expansion is a letter, as the expanded one is. -/
private theorem upperExpansions_ofLetters : ∀ row ∈ upperExpansions,
    letterBits.testBit row.1 = true ∧ row.2.head?.any letterBits.testBit = true := by
  decide +kernel

/-- A letter has an image that is a letter, and anything else is kept; neither
gives İ. -/
def isFaithful (character image : Char) : Bool :=
  isAlphabetic image == isAlphabetic character &&
    (isAlphabetic character || image == character) && image != 'İ'

private theorem ascii_letters : ∀ code < 0x80,
    letterBits.testBit code = isAlphabetic (Char.ofNat code) ∧
      isFaithful (Char.ofNat code) (Char.ofNat code).toLower = true ∧
      isFaithful (Char.ofNat code) (Char.ofNat code).toUpper = true := by
  decide +kernel

/-- The letters are characters: none is a surrogate or beyond the last one. -/
private theorem letterBits_valid : letterBits >>> 0x110000 = 0 ∧
    letterBits &&& spanBits 0xD800 0xDFFF = 0 := by
  decide +kernel

theorem toNat_ofNat_of_isValidChar {code : Nat} (valid : code.isValidChar) :
    (Char.ofNat code).toNat = code := by
  rw [Char.ofNat, dif_pos valid]
  rfl

/-- A number stands for a character other than U+0000 only as its code point. -/
theorem toNat_ofNat_of_ne_zero {code : Nat} (proper : (Char.ofNat code).toNat ≠ 0) :
    (Char.ofNat code).toNat = code := by
  by_cases valid : code.isValidChar
  · exact toNat_ofNat_of_isValidChar valid
  · rw [Char.ofNat, dif_neg valid] at proper
    exact absurd rfl proper

theorem isValidChar_of_letter {code : Nat} (letter : letterBits.testBit code = true) :
    code.isValidChar := by
  have notBeyond : code < 0x110000 := by
    apply Nat.lt_of_not_le
    intro beyond
    have shifted : (letterBits >>> 0x110000).testBit (code - 0x110000) = true := by
      rw [Nat.testBit_shiftRight, Nat.add_sub_cancel' beyond, letter]
    rw [letterBits_valid.1, Nat.zero_testBit] at shifted
    cases shifted
  have notSurrogate : ¬(0xD800 ≤ code ∧ code ≤ 0xDFFF) := by
    intro within
    have both : (letterBits &&& spanBits 0xD800 0xDFFF).testBit code = true := by
      rw [Nat.testBit_and, letter, testBit_spanBits, decide_eq_true within.1,
        decide_eq_true within.2]
      rfl
    rw [letterBits_valid.2, Nat.zero_testBit] at both
    cases both
  simp only [Nat.isValidChar]
  omega

theorem isAlphabetic_ofNat {code : Nat} (letter : letterBits.testBit code = true) :
    isAlphabetic (Char.ofNat code) = true := by
  by_cases ascii : code < 0x80
  · rw [← (ascii_letters code ascii).1, letter]
  · have listed := letter
    rw [letterBits, bits, bits, Nat.testBit_or, Nat.testBit_or, testBit_spanBits,
      testBit_spanBits, testBit_bits, decide_eq_false (show ¬code ≤ 0x5A by omega),
      decide_eq_false (show ¬code ≤ 0x7A by omega), Bool.and_false, Bool.and_false,
      Bool.false_or, Bool.false_or] at listed
    rw [isAlphabetic, toNat_ofNat_of_isValidChar (isValidChar_of_letter letter), if_neg ascii]
    exact listed

private theorem isAlphabetic_of_covers {character : Char} {shift : CaseShift}
    (listed : shift ∈ lowerShifts ++ upperShifts)
    (covers : shift.covers character.toNat = true) :
    isAlphabetic character = true ∧
      isAlphabetic (Char.ofNat (shift.apply character.toNat)) = true := by
  obtain ⟨source, image⟩ := CaseShift.testBit_of_ofLetters (shifts_ofLetters shift listed).1 covers
  have letter := isAlphabetic_ofNat source
  rw [Char.ofNat_toNat] at letter
  exact ⟨letter, isAlphabetic_ofNat image⟩

private theorem ascii_image {character image : Char} (ascii : character.toNat < 0x80)
    (isImage : image = character.toLower ∨ image = character.toUpper) :
    isAlphabetic image = isAlphabetic character ∧
      (isAlphabetic character = false → image = character) ∧ image ≠ 'İ' := by
  have both := (ascii_letters character.toNat ascii).2
  rw [Char.ofNat_toNat] at both
  have faithful : isFaithful character image = true := by
    rcases isImage with rfl | rfl
    · exact both.1
    · exact both.2
  simp only [isFaithful, Bool.and_eq_true, beq_iff_eq, Bool.or_eq_true, bne_iff_ne] at faithful
  obtain ⟨⟨same, kept⟩, apart⟩ := faithful
  refine ⟨same, fun other => kept.resolve_left ?_, apart⟩
  rw [other]
  exact Bool.false_ne_true

/-! ## Small letters -/

/-- The one expansion into small letters. -/
private theorem eq_of_mem_lowerExpansions {character : Char} {codes : List Nat}
    (listed : (character.toNat, codes) ∈ lowerExpansions) : character = 'İ' := by
  rw [lowerExpansions, List.mem_singleton, Prod.mk.injEq] at listed
  rw [← Char.ofNat_toNat character, listed.1]

section

variable {character : Char}

theorem lower_of_not_isAlphabetic (other : isAlphabetic character = false) :
    lower character = [character] := by
  by_cases ascii : character.toNat < 0x80
  · have kept := (ascii_image ascii (.inl rfl)).2.1
    rw [lower, if_pos ascii, kept other]
  · have image := isImage_lower (Nat.le_of_not_lt ascii)
    generalize lower character = images at image
    cases image with
    | kept => rfl
    | shifted listed covers =>
        rw [(isAlphabetic_of_covers (List.mem_append_left _ listed) covers).1] at other
        cases other
    | expanded listed =>
        rw [eq_of_mem_lowerExpansions listed] at other
        exact absurd other (by decide)

/-- The small form of a letter other than İ is one letter, and not İ. -/
theorem lower_of_isAlphabetic (letter : isAlphabetic character = true)
    (notDotted : character ≠ 'İ') :
    ∃ image, lower character = [image] ∧ isAlphabetic image = true ∧ image ≠ 'İ' := by
  by_cases ascii : character.toNat < 0x80
  · obtain ⟨same, _, apart⟩ := ascii_image ascii (.inl rfl)
    exact ⟨character.toLower, by rw [lower, if_pos ascii], same.trans letter, apart⟩
  · have image := isImage_lower (Nat.le_of_not_lt ascii)
    generalize lower character = images at image
    cases image with
    | kept => exact ⟨character, rfl, letter, notDotted⟩
    | shifted listed covers =>
        refine ⟨_, rfl, (isAlphabetic_of_covers (List.mem_append_left _ listed) covers).2, ?_⟩
        intro dotted
        have dottedCode : 'İ'.toNat = 0x130 := rfl
        have code := (toNat_ofNat_of_ne_zero (by rw [dotted]; decide)).symm.trans
          ((congrArg Char.toNat dotted).trans dottedCode)
        simp only [CaseShift.covers, Bool.and_eq_true, decide_eq_true_eq] at covers
        apply (shifts_ofLetters _ (List.mem_append_left _ listed)).2
        simp only [CaseShift.apply] at code
        omega
    | expanded listed => exact absurd (eq_of_mem_lowerExpansions listed) notDotted

end

/-! ## Capitals -/

section

variable {character : Char}

private theorem isAlphabetic_of_mem_upperExpansions {codes : List Nat}
    (listed : (character.toNat, codes) ∈ upperExpansions) :
    isAlphabetic character = true ∧
      ∃ first rest, codes.map Char.ofNat = first :: rest ∧ isAlphabetic first = true := by
  obtain ⟨source, image⟩ := upperExpansions_ofLetters _ listed
  have letter := isAlphabetic_ofNat source
  rw [Char.ofNat_toNat] at letter
  refine ⟨letter, ?_⟩
  cases codes with
  | nil => cases image
  | cons first rest =>
      exact ⟨_, _, List.map_cons, isAlphabetic_ofNat image⟩

theorem upper_of_not_isAlphabetic (other : isAlphabetic character = false) :
    upper character = [character] := by
  by_cases ascii : character.toNat < 0x80
  · have kept := (ascii_image ascii (.inr rfl)).2.1
    rw [upper, if_pos ascii, kept other]
  · have image := isImage_upper (Nat.le_of_not_lt ascii)
    generalize upper character = images at image
    cases image with
    | kept => rfl
    | shifted listed covers =>
        rw [(isAlphabetic_of_covers (List.mem_append_right _ listed) covers).1] at other
        cases other
    | expanded listed =>
        rw [(isAlphabetic_of_mem_upperExpansions listed).1] at other
        cases other

/-- The capital form of a letter starts with a letter. -/
theorem upper_of_isAlphabetic (letter : isAlphabetic character = true) :
    ∃ first rest, upper character = first :: rest ∧ isAlphabetic first = true := by
  by_cases ascii : character.toNat < 0x80
  · have same := (ascii_image ascii (.inr rfl)).1
    exact ⟨character.toUpper, [], by rw [upper, if_pos ascii], same.trans letter⟩
  · have image := isImage_upper (Nat.le_of_not_lt ascii)
    generalize upper character = images at image
    cases image with
    | kept => exact ⟨character, [], rfl, letter⟩
    | shifted listed covers =>
        exact ⟨_, [], rfl, (isAlphabetic_of_covers (List.mem_append_right _ listed) covers).2⟩
    | expanded listed => exact (isAlphabetic_of_mem_upperExpansions listed).2

end

end FormRules.Text
