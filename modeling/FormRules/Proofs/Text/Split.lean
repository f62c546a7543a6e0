import FormRules.Text.Split

/-!
Contract: texts cut at separators and put together again.

Owns:
- the text that the pieces of a text make, joined by the separator;
- the pieces of a text that is put together around a separator.

Does not own: what the pieces mean.
-/

namespace FormRules.Text

theorem splitBy_ne_nil (separates : Char → Bool) (text : List Char) :
    splitBy separates text ≠ [] := by
  cases text with
  | nil => simp [splitBy]
  | cons first rest =>
      unfold splitBy
      split
      · simp
      · split <;> simp

/-- The pieces of a text, joined by the separator, are the text. -/
theorem intercalate_splitBy (separator : Char) (text : List Char) :
    [separator].intercalate (splitBy (· == separator) text) = text := by
  induction text with
  | nil => rfl
  | cons first rest inductionHypothesis =>
      obtain ⟨piece, more, pieces⟩ :=
        List.exists_cons_of_ne_nil (splitBy_ne_nil (· == separator) rest)
      rw [pieces] at inductionHypothesis
      unfold splitBy
      by_cases separates : first = separator
      · rw [if_pos (by simpa using separates), pieces, List.intercalate_cons_cons,
          inductionHypothesis, separates]
        rfl
      · rw [if_neg (by simpa using separates), pieces]
        -- The first character goes to the front of the first piece.
        cases more with
        | nil =>
            rw [List.intercalate_singleton] at inductionHypothesis ⊢
            rw [inductionHypothesis]
        | cons second others =>
            rw [List.intercalate_cons_cons] at inductionHypothesis ⊢
            rw [List.cons_append, List.cons_append, inductionHypothesis]

theorem splitAt_ne_nil (separator : Char) (text : String) : splitAt separator text ≠ [] := by
  rw [splitAt, Ne, List.map_eq_nil_iff]
  exact splitBy_ne_nil _ _

theorem intercalate_splitAt (separator : Char) (text : String) :
    (String.ofList [separator]).intercalate (splitAt separator text) = text := by
  have pieces : (splitAt separator text).map String.toList =
      splitBy (· == separator) text.toList := by
    rw [splitAt, List.map_map]
    simp [Function.comp_def]
  rw [← String.toList_inj, String.toList_intercalate, String.toList_ofList, pieces,
    intercalate_splitBy]

/-- A separator keeps what is before it apart from what is after it. -/
theorem splitBy_append_cons {separates : Char → Bool} {separator : Char}
    (isSeparator : separates separator = true) (first rest : List Char) :
    splitBy separates (first ++ separator :: rest) =
      splitBy separates first ++ splitBy separates rest := by
  induction first with
  | nil => simp [splitBy, isSeparator]
  | cons head tail inductionHypothesis =>
      obtain ⟨piece, more, pieces⟩ :=
        List.exists_cons_of_ne_nil (splitBy_ne_nil separates tail)
      rw [List.cons_append, splitBy, splitBy, inductionHypothesis, pieces]
      by_cases parts : separates head = true
      · rw [if_pos parts, if_pos parts]
        rfl
      · rw [if_neg parts, if_neg parts]
        rfl

theorem splitBy_of_none {separates : Char → Bool} {text : List Char}
    (whole : ∀ character ∈ text, separates character = false) :
    splitBy separates text = [text] := by
  induction text with
  | nil => rfl
  | cons head tail inductionHypothesis =>
      rw [splitBy, if_neg (by simp [whole head List.mem_cons_self]),
        inductionHypothesis fun character member => whole character (List.mem_cons_of_mem _ member)]

theorem not_separates_of_mem_splitBy {separates : Char → Bool} {text piece : List Char}
    (member : piece ∈ splitBy separates text) :
    ∀ character ∈ piece, separates character = false := by
  induction text generalizing piece with
  | nil =>
      rw [splitBy, List.mem_singleton] at member
      simp [member]
  | cons head tail inductionHypothesis =>
      obtain ⟨first, more, pieces⟩ :=
        List.exists_cons_of_ne_nil (splitBy_ne_nil separates tail)
      rw [pieces] at inductionHypothesis
      rw [splitBy, pieces] at member
      split at member
      · rcases List.mem_cons.1 member with rfl | later
        · simp
        · exact inductionHypothesis later
      next whole =>
        rcases List.mem_cons.1 member with rfl | later
        · intro character inPiece
          rcases List.mem_cons.1 inPiece with rfl | inFirst
          · simpa using whole
          · exact inductionHypothesis List.mem_cons_self character inFirst
        · exact inductionHypothesis (List.mem_cons_of_mem _ later)

section SplitAt

variable (separator : Char)

theorem splitAt_append (first rest : String) :
    splitAt separator (first ++ String.ofList [separator] ++ rest) =
      splitAt separator first ++ splitAt separator rest := by
  have cut := @splitBy_append_cons (· == separator) separator (beq_self_eq_true separator)
    first.toList rest.toList
  rw [splitAt, splitAt, splitAt, ← List.map_append, ← cut]
  simp

theorem splitAt_of_notMem {separator : Char} {text : String} (whole : separator ∉ text.toList) :
    splitAt separator text = [text] := by
  rw [splitAt, splitBy_of_none]
  · simp
  · intro character member
    rw [beq_eq_false_iff_ne]
    rintro rfl
    exact whole member

theorem notMem_of_mem_splitAt {separator : Char} {text piece : String}
    (member : piece ∈ splitAt separator text) : separator ∉ piece.toList := by
  rw [splitAt, List.mem_map] at member
  obtain ⟨characters, inPieces, rfl⟩ := member
  intro there
  have other := not_separates_of_mem_splitBy inPieces separator (by simpa using there)
  simp at other

/-- Pieces without the separator are the pieces of the text they make. -/
theorem splitAt_intercalate {separator : Char} {pieces : List String} (filled : pieces ≠ [])
    (whole : ∀ piece ∈ pieces, separator ∉ piece.toList) :
    splitAt separator ((String.ofList [separator]).intercalate pieces) = pieces := by
  induction pieces with
  | nil => exact absurd rfl filled
  | cons first rest inductionHypothesis =>
      cases rest with
      | nil =>
          rw [String.intercalate_singleton]
          exact splitAt_of_notMem (whole first List.mem_cons_self)
      | cons second more =>
          rw [String.intercalate_cons_cons, splitAt_append,
            splitAt_of_notMem (whole first List.mem_cons_self),
            inductionHypothesis (List.cons_ne_nil _ _)
              fun piece member => whole piece (List.mem_cons_of_mem _ member)]
          rfl

end SplitAt

end FormRules.Text
