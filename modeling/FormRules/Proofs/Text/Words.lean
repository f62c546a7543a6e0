import FormRules.Proofs.Text.CaseMap
import FormRules.Proofs.Text.Split
import FormRules.Text.Words

/-!
Contract: the words of a name, and their two spellings.

Owns:
- the words hold the letters and digits of the name, in order and nothing else,
  and none of them is empty;
- what a word in small letters is made of, and what it starts with;
- what a capitalised word starts with.

Does not own: singular and plural.
-/

namespace FormRules.Text

/-! ## Division -/

theorem flatten_splitBy (separates : Char → Bool) (text : List Char) :
    (splitBy separates text).flatten = text.filter fun character => !separates character := by
  induction text with
  | nil => rfl
  | cons first rest inductionHypothesis =>
      obtain ⟨piece, more, pieces⟩ := List.exists_cons_of_ne_nil (splitBy_ne_nil separates rest)
      rw [pieces] at inductionHypothesis
      rw [splitBy, pieces, List.filter_cons, ← inductionHypothesis]
      cases separates first with
      | true => rfl
      | false => rfl

/-- A piece is divided into words that make it up, behind what is pending. -/
theorem flatten_wordsOfPiece {mode : WordMode} {pending piece : List Char} (filled : piece ≠ []) :
    (wordsOfPiece mode pending piece).flatten = pending ++ piece := by
  fun_induction wordsOfPiece mode pending piece with
  | case1 => exact absurd rfl filled
  | case2 => simp
  | case3 mode pending character next rest _ inductionHypothesis =>
      rw [List.flatten_cons, inductionHypothesis (List.cons_ne_nil _ _)]
      simp
  | case4 mode pending character next rest _ _ inductionHypothesis =>
      rw [List.flatten_cons, inductionHypothesis (List.cons_ne_nil _ _)]
      simp
  | case5 mode pending character next rest _ _ inductionHypothesis =>
      rw [inductionHypothesis (List.cons_ne_nil _ _)]
      simp

/-- A mode is left only with something pending, so no word is empty. -/
theorem ne_nil_of_mem_wordsOfPiece {mode : WordMode} {pending piece word : List Char}
    (begun : mode ≠ .boundary → pending ≠ []) (member : word ∈ wordsOfPiece mode pending piece) :
    word ≠ [] := by
  fun_induction wordsOfPiece mode pending piece with
  | case1 => cases member
  | case2 mode pending character =>
      rw [List.mem_singleton.1 member]
      exact List.append_ne_nil_of_right_ne_nil _ (List.cons_ne_nil _ _)
  | case3 mode pending character next rest _ inductionHypothesis =>
      rcases List.mem_cons.1 member with rfl | later
      · exact List.append_ne_nil_of_right_ne_nil _ (List.cons_ne_nil _ _)
      · exact inductionHypothesis (fun inside => absurd rfl inside) later
  | case4 mode pending character next rest _ breaks inductionHypothesis =>
      rcases List.mem_cons.1 member with rfl | later
      · apply begun
        rintro rfl
        simp at breaks
      · exact inductionHypothesis (fun inside => absurd rfl inside) later
  | case5 mode pending character next rest _ _ inductionHypothesis =>
      exact inductionHypothesis
        (fun _ => List.append_ne_nil_of_right_ne_nil _ (List.cons_ne_nil _ _)) member

/-- The words of a name hold its letters and digits, in order. -/
theorem flatten_words (name : List Char) :
    (words name).flatten = name.filter isAlphanumeric := by
  have pieces : ∀ piece, (wordsOfPiece .boundary [] piece).flatten = piece := by
    intro piece
    cases piece with
    | nil => rfl
    | cons first rest => exact flatten_wordsOfPiece (List.cons_ne_nil _ _)
  have split := flatten_splitBy (fun character => !isAlphanumeric character) name
  simp only [Bool.not_not] at split
  rw [words, ← split]
  induction splitBy (fun character => !isAlphanumeric character) name with
  | nil => rfl
  | cons piece more inductionHypothesis =>
      rw [List.flatMap_cons, List.flatten_append, inductionHypothesis, pieces, List.flatten_cons]

theorem ne_nil_of_mem_words {name word : List Char} (member : word ∈ words name) : word ≠ [] := by
  obtain ⟨piece, _, inPiece⟩ := List.mem_flatMap.1 member
  exact ne_nil_of_mem_wordsOfPiece (fun inside => absurd rfl inside) inPiece

theorem mem_of_mem_words {name word : List Char} (member : word ∈ words name) {character : Char}
    (inWord : character ∈ word) : character ∈ name ∧ isAlphanumeric character = true := by
  have inWords := List.mem_flatten_of_mem member inWord
  rw [flatten_words] at inWords
  exact List.mem_filter.1 inWords

/-- The first word starts with the first letter or digit. -/
theorem words_eq_cons {name : List Char} {first : Char}
    (found : name.find? isAlphanumeric = some first) :
    ∃ rest others, words name = (first :: rest) :: others := by
  have kept := flatten_words name
  have head : (name.filter isAlphanumeric).head? = some first := by
    rw [List.head?_filter, found]
  match division : words name with
  | [] =>
      rw [← kept, division] at head
      cases head
  | [] :: others => exact absurd rfl (ne_nil_of_mem_words (division ▸ List.mem_cons_self))
  | (character :: rest) :: others =>
      rw [← kept, division] at head
      exact ⟨rest, others, by rw [← Option.some.inj head]⟩

theorem words_eq_nil {name : List Char}
    (none : ∀ character ∈ name, isAlphanumeric character = false) : words name = [] := by
  have kept := flatten_words name
  rw [List.filter_eq_nil_iff.2 (by simpa using none)] at kept
  rw [List.eq_nil_iff_forall_not_mem]
  intro word member
  exact ne_nil_of_mem_words member (List.flatten_eq_nil_iff.1 kept word member)

/-! ## Spelling -/

theorem isAlphanumeric_of_isAlphabetic {character : Char} (letter : isAlphabetic character = true) :
    isAlphanumeric character = true := by
  rw [isAlphanumeric, letter, Bool.true_or]

section

variable {character : Char}

/-- The small form of a letter or digit starts with one of the same class. -/
theorem head_lower (word : isAlphanumeric character = true) :
    ∃ first more, lower character = first :: more ∧
      isAlphanumeric first = true ∧ isAlphabetic first = isAlphabetic character := by
  by_cases dotted : character = 'İ'
  · subst dotted
    exact ⟨'i', ['\u0307'], by decide⟩
  · cases letter : isAlphabetic character with
    | false => exact ⟨character, [], lower_of_not_isAlphabetic letter, word, letter⟩
    | true =>
        obtain ⟨image, small, isLetter, _⟩ := lower_of_isAlphabetic letter dotted
        exact ⟨image, [], small, isAlphanumeric_of_isAlphabetic isLetter, isLetter⟩

/-- İ is no small form, of whatever character. -/
theorem dotted_notMem_lower (character : Char) : 'İ' ∉ lower character := by
  by_cases dotted : character = 'İ'
  · subst dotted
    decide
  · cases letter : isAlphabetic character with
    | false =>
        rw [lower_of_not_isAlphabetic letter, List.mem_singleton]
        exact Ne.symm dotted
    | true =>
        obtain ⟨image, small, _, apart⟩ := lower_of_isAlphabetic letter dotted
        rw [small, List.mem_singleton]
        exact Ne.symm apart

/-- But for İ, letters and digits have small forms without any other character. -/
theorem isAlphanumeric_of_mem_lower (word : isAlphanumeric character = true)
    (notDotted : character ≠ 'İ') :
    ∀ image ∈ lower character, isAlphanumeric image = true := by
  intro image member
  cases letter : isAlphabetic character with
  | false =>
      rw [lower_of_not_isAlphabetic letter, List.mem_singleton] at member
      rwa [member]
  | true =>
      obtain ⟨small, same, isLetter, _⟩ := lower_of_isAlphabetic letter notDotted
      rw [same, List.mem_singleton] at member
      rw [member]
      exact isAlphanumeric_of_isAlphabetic isLetter

end

theorem isAlphabetic_finalSigma : isAlphabetic 'ς' = true := by
  decide

theorem dotted_notMem_lowerWord (word : List Char) : 'İ' ∉ lowerWord word := by
  fun_induction lowerWord word with
  | case1 => exact List.not_mem_nil
  | case2 => decide
  | case3 character rest _ inductionHypothesis =>
      rw [List.mem_append, not_or]
      exact ⟨dotted_notMem_lower character, inductionHypothesis⟩

theorem isAlphanumeric_of_mem_lowerWord {word : List Char}
    (letters : ∀ character ∈ word, isAlphanumeric character = true) (notDotted : 'İ' ∉ word) :
    ∀ image ∈ lowerWord word, isAlphanumeric image = true := by
  fun_induction lowerWord word with
  | case1 => simp
  | case2 =>
      rw [List.forall_mem_singleton]
      exact isAlphanumeric_of_isAlphabetic isAlphabetic_finalSigma
  | case3 character rest _ inductionHypothesis =>
      rw [List.mem_cons, not_or] at notDotted
      rw [List.forall_mem_append]
      refine ⟨isAlphanumeric_of_mem_lower (letters character List.mem_cons_self)
        (Ne.symm notDotted.1), inductionHypothesis ?_ notDotted.2⟩
      exact fun other inRest => letters other (List.mem_cons_of_mem character inRest)

/-- A word in small letters starts with a character of the class that the word
starts with. -/
theorem head_lowerWord {character : Char} (rest : List Char)
    (word : isAlphanumeric character = true) :
    ∃ first more, lowerWord (character :: rest) = first :: more ∧
      isAlphanumeric first = true ∧ isAlphabetic first = isAlphabetic character := by
  rw [lowerWord.eq_def]
  split
  next => contradiction
  next same =>
    rw [(List.cons.inj same).1]
    exact ⟨'ς', [], rfl, isAlphanumeric_of_isAlphabetic isAlphabetic_finalSigma,
      isAlphabetic_finalSigma.trans (by decide)⟩
  next same =>
    obtain ⟨rfl, rfl⟩ := List.cons.inj same
    obtain ⟨first, more, small, classes⟩ := head_lower word
    exact ⟨first, more ++ lowerWord rest, by rw [small]; rfl, classes⟩

end FormRules.Text
