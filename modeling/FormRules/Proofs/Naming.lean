import FormRules.Naming
import FormRules.Proofs.Text.Words

/-!
Contract: what the generated names cannot hold.

Owns:
- the case conversions of letters and digits, which never give a mark of paths
  or namespaces;
- the characters of a class name.

Does not own: the words that a class name is made of.
-/

namespace FormRules

open FormRules.Text

namespace Naming

/-- The characters that mean something in a path or in a namespace. -/
def marks : List Char := ['/', '.', '\\', '\x00']

end Naming

namespace Text

open Naming (marks)

/-! ## Characters -/

/-- A code point that stands for a character of its own, which is no mark. -/
def isUnmarked (code : Nat) : Bool :=
  (0x5D ≤ code && code < 0xD800) || (0xE000 ≤ code && code < 0x110000) ||
    (0x30 ≤ code && code < 0x5C)

theorem notMem_marks_of_isUnmarked {code : Nat} (unmarked : isUnmarked code = true) :
    Char.ofNat code ∉ marks := by
  have valid : code.isValidChar := by
    simp only [isUnmarked, Bool.or_eq_true, Bool.and_eq_true, decide_eq_true_eq] at unmarked
    simp only [Nat.isValidChar]
    omega
  have kept := toNat_ofNat_of_isValidChar valid
  intro member
  have isMark : code = 0x2F ∨ code = 0x2E ∨ code = 0x5C ∨ code = 0 := by
    rw [← kept]
    simp only [marks, List.mem_cons, List.not_mem_nil, or_false] at member
    rcases member with same | same | same | same <;> rw [same] <;> decide
  simp only [isUnmarked, Bool.or_eq_true, Bool.and_eq_true, decide_eq_true_eq] at unmarked
  omega

theorem isUnmarked_toNat {character : Char} (beyond : 0x80 ≤ character.toNat) :
    isUnmarked character.toNat = true := by
  have valid := character.valid
  simp only [UInt32.isValidChar, Nat.isValidChar] at valid
  have same : character.val.toNat = character.toNat := rfl
  simp only [isUnmarked, Bool.or_eq_true, Bool.and_eq_true, decide_eq_true_eq]
  omega

/-- All code points from the first to the last image are unmarked. -/
def CaseShift.isUnmarked (shift : CaseShift) : Bool :=
  (0x5D ≤ shift.image && shift.image + (shift.last - shift.first) < 0xD800) ||
    (0xE000 ≤ shift.image && shift.image + (shift.last - shift.first) < 0x110000) ||
    (0x30 ≤ shift.image && shift.image + (shift.last - shift.first) < 0x5C)

theorem CaseShift.isUnmarked_apply {shift : CaseShift} {code : Nat}
    (unmarked : shift.isUnmarked = true) (covers : shift.covers code = true) :
    Text.isUnmarked (shift.apply code) = true := by
  simp only [CaseShift.isUnmarked, Bool.or_eq_true, Bool.and_eq_true, decide_eq_true_eq] at unmarked
  simp only [CaseShift.covers, Bool.and_eq_true, decide_eq_true_eq] at covers
  have image : shift.apply code = shift.image + (code - shift.first) := rfl
  simp only [Text.isUnmarked, Bool.or_eq_true, Bool.and_eq_true, decide_eq_true_eq]
  omega

private theorem expansions_unmarked :
    ∀ row ∈ lowerExpansions ++ upperExpansions, ∀ code ∈ row.2, isUnmarked code = true := by
  decide +kernel

private theorem shifts_unmarked :
    ∀ shift ∈ lowerShifts ++ upperShifts, shift.isUnmarked = true := by
  decide +kernel

private theorem ascii_unmarked : ∀ code < 0x80, isAlphanumeric (Char.ofNat code) = true →
    (Char.ofNat code).toLower ∉ marks ∧ (Char.ofNat code).toUpper ∉ marks := by
  decide +kernel

/-- The images of a character beyond ASCII, by whichever table. -/
private theorem notMem_marks_of_isImage {expansions : List (Nat × List Nat)}
    {shifts : List CaseShift} {character : Char} {images : List Char}
    (knownExpansions : expansions ⊆ lowerExpansions ++ upperExpansions)
    (knownShifts : shifts ⊆ lowerShifts ++ upperShifts)
    (beyond : 0x80 ≤ character.toNat) (image : IsImage expansions shifts character images) :
    ∀ image ∈ images, image ∉ marks := by
  cases image with
  | expanded listed =>
      intro image member
      obtain ⟨code, inCodes, rfl⟩ := List.mem_map.1 member
      exact notMem_marks_of_isUnmarked (expansions_unmarked _ (knownExpansions listed) code inCodes)
  | shifted listed covers =>
      rw [List.forall_mem_singleton]
      exact notMem_marks_of_isUnmarked
        (CaseShift.isUnmarked_apply (shifts_unmarked _ (knownShifts listed)) covers)
  | kept =>
      rw [List.forall_mem_singleton, ← Char.ofNat_toNat character]
      exact notMem_marks_of_isUnmarked (isUnmarked_toNat beyond)

theorem notMem_marks_of_mem_lower {character : Char} (word : isAlphanumeric character = true) :
    ∀ image ∈ lower character, image ∉ marks := by
  by_cases ascii : character.toNat < 0x80
  · have kept := ascii_unmarked character.toNat ascii
    rw [Char.ofNat_toNat] at kept
    rw [lower, if_pos ascii, List.forall_mem_singleton]
    exact (kept word).1
  · have beyond := Nat.le_of_not_lt ascii
    exact notMem_marks_of_isImage (List.subset_append_left _ _) (List.subset_append_left _ _)
      beyond (isImage_lower beyond)

theorem notMem_marks_of_mem_upper {character : Char} (word : isAlphanumeric character = true) :
    ∀ image ∈ upper character, image ∉ marks := by
  by_cases ascii : character.toNat < 0x80
  · have kept := ascii_unmarked character.toNat ascii
    rw [Char.ofNat_toNat] at kept
    rw [upper, if_pos ascii, List.forall_mem_singleton]
    exact (kept word).2
  · have beyond := Nat.le_of_not_lt ascii
    exact notMem_marks_of_isImage (List.subset_append_right _ _) (List.subset_append_right _ _)
      beyond (isImage_upper beyond)

/-! ## Words -/

theorem notMem_marks_of_mem_lowerWord {word : List Char}
    (letters : ∀ character ∈ word, isAlphanumeric character = true) :
    ∀ image ∈ lowerWord word, image ∉ marks := by
  fun_induction lowerWord word with
  | case1 => simp
  | case2 =>
      intro image member
      rw [List.mem_singleton.1 member]
      decide
  | case3 character rest _ inductionHypothesis =>
      intro image member
      rcases List.mem_append.1 member with first | later
      · exact notMem_marks_of_mem_lower (letters character List.mem_cons_self) image first
      · exact inductionHypothesis
          (fun other inRest => letters other (List.mem_cons_of_mem _ inRest)) image later

theorem notMem_marks_of_mem_pascal (name : List Char) :
    ∀ image ∈ pascal name, image ∉ marks := by
  intro image member
  obtain ⟨word, inWords, inWord⟩ := List.mem_flatMap.1 member
  have letters : ∀ character ∈ word, isAlphanumeric character = true :=
    fun character inWord => (mem_of_mem_words inWords inWord).2
  cases word with
  | nil => cases inWord
  | cons first rest =>
      rcases List.mem_append.1 inWord with capital | later
      · exact notMem_marks_of_mem_upper (letters first List.mem_cons_self) image capital
      · exact notMem_marks_of_mem_lowerWord
          (fun other inRest => letters other (List.mem_cons_of_mem _ inRest)) image later

end Text

namespace Naming

/-- No class name holds a mark, whatever the table is called. -/
theorem notMem_marks_className (table : String) :
    ∀ character ∈ (className table).toList, character ∉ marks := by
  intro character member
  rw [className, String.toList_ofList] at member
  exact notMem_marks_of_mem_pascal _ character member

end Naming

end FormRules
