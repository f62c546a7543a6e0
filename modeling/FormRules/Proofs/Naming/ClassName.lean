import FormRules.Identifier
import FormRules.Proofs.Naming
import FormRules.Proofs.Naming.Singular

/-!
Contract: the class name of a table, from the first letter on.

Owns:
- the first letter or digit of a name in its singular;
- the class name is empty only for a name without letters and digits;
- the tables whose class name is an identifier, exactly.

Does not own: the table names that are accepted.

The first letter or digit of a name comes through every step: the small form,
the singular and the capital form each start with a character of the same class.
What may be lost on the way is the class of the characters that follow, and only
in the last step: the capital form of a few letters, such as ǰ, is a letter with
a mark behind it that is no letter itself.
-/

namespace FormRules.Naming

open FormRules.Text

/-! ## The singular of a name -/

/-- The singular of a name replaces its last part by the singular of that. -/
theorem exists_singular_eq (name : List Char) :
    ∃ front last, snake name = front ++ last ∧ singular name = front ++ singularWord last := by
  obtain ⟨front, last, parts, isLast⟩ : ∃ front last, snake name = front ++ last ∧
      ((snake name).reverse.takeWhile (· != '_')).reverse = last := by
    refine ⟨((snake name).reverse.dropWhile (· != '_')).reverse, _, ?_, rfl⟩
    rw [← List.reverse_append, List.takeWhile_append_dropWhile, List.reverse_reverse]
  refine ⟨front, last, parts, ?_⟩
  simp only [singular, isLast]
  rw [parts, List.length_append, Nat.add_sub_cancel, List.take_left]

theorem head?_singular (name : List Char) : (singular name).head? = (snake name).head? := by
  obtain ⟨front, last, parts, same⟩ := exists_singular_eq name
  rw [parts, same, List.head?_append, List.head?_append, head?_singularWord]

/-- The singular of a name starts with the small form of its first letter or
digit. -/
theorem head?_singular_of_find? {name : List Char} {first : Char}
    (found : name.find? isAlphanumeric = some first) :
    ∃ small, (singular name).head? = some small ∧ isAlphanumeric small = true ∧
      isAlphabetic small = isAlphabetic first := by
  obtain ⟨rest, others, division⟩ := words_eq_cons found
  have isWord : isAlphanumeric first = true := List.find?_some found
  obtain ⟨small, more, spelled, classes⟩ := head_lowerWord rest isWord
  refine ⟨small, ?_, classes⟩
  rw [head?_singular, snake, division, List.map_cons, spelled]
  cases others with
  | nil => rw [List.map_nil, List.intercalate_singleton, List.head?_cons]
  | cons second more =>
      rw [List.map_cons, List.intercalate_cons_cons, List.append_assoc, List.cons_append,
        List.head?_cons]

theorem mem_intercalate {separator character : Char} {pieces : List (List Char)}
    (member : character ∈ [separator].intercalate pieces) :
    character = separator ∨ ∃ piece ∈ pieces, character ∈ piece := by
  induction pieces with
  | nil => cases member
  | cons first more inductionHypothesis =>
      cases more with
      | nil =>
          rw [List.intercalate_singleton] at member
          exact .inr ⟨first, List.mem_cons_self, member⟩
      | cons second others =>
          rw [List.intercalate_cons_cons, List.append_assoc] at member
          rcases List.mem_append.1 member with inFirst | behind
          · exact .inr ⟨first, List.mem_cons_self, inFirst⟩
          · rcases List.mem_cons.1 behind with between | later
            · exact .inl between
            · rcases inductionHypothesis later with between | ⟨piece, inPieces, there⟩
              · exact .inl between
              · exact .inr ⟨piece, List.mem_cons_of_mem _ inPieces, there⟩

/-- İ is in no singular. -/
theorem dotted_notMem_singular (name : List Char) : 'İ' ∉ singular name := by
  obtain ⟨front, last, parts, same⟩ := exists_singular_eq name
  have inSnake : 'İ' ∉ snake name := by
    intro member
    rcases mem_intercalate member with separator | ⟨piece, inPieces, inPiece⟩
    · exact absurd separator (by decide)
    · obtain ⟨word, _, rfl⟩ := List.mem_map.1 inPieces
      exact dotted_notMem_lowerWord word inPiece
  rw [parts, List.mem_append, not_or] at inSnake
  rw [same, List.mem_append, not_or]
  refine ⟨inSnake.1, fun member => ?_⟩
  rcases mem_or_isSmallLetter_of_mem_singularWord member with there | small
  · exact inSnake.2 there
  · exact absurd small (by decide)

/-! ## Class names -/

/-- A class name is the words of the singular, each with a capital. -/
theorem toList_className (table : String) :
    (className table).toList = (words (singular table.toList)).flatMap capitalWord := by
  rw [className, String.toList_ofList, pascal]

theorem head_upper {character : Char} (word : isAlphanumeric character = true) :
    ∃ first more, upper character = first :: more ∧
      isWordStart first = isAlphabetic character := by
  cases letter : isAlphabetic character with
  | true =>
      obtain ⟨first, more, capital, isLetter⟩ := upper_of_isAlphabetic letter
      exact ⟨first, more, capital, by rw [isWordStart, isLetter, Bool.true_or]⟩
  | false =>
      refine ⟨character, [], upper_of_not_isAlphabetic letter, ?_⟩
      rw [isWordStart, letter, Bool.false_or, beq_eq_false_iff_ne]
      rintro rfl
      exact absurd word (by decide)

/-- A class name starts with a letter if the first letter or digit of the table
name is a letter, and else with that digit. -/
theorem className_eq_cons {table : String} {first : Char}
    (found : table.toList.find? isAlphanumeric = some first) :
    ∃ start more, (className table).toList = start :: more ∧
      isWordStart start = isAlphabetic first := by
  obtain ⟨small, head, isWord, letter⟩ := head?_singular_of_find? found
  have isFirst : (singular table.toList).find? isAlphanumeric = some small := by
    obtain ⟨more, shape⟩ := List.head?_eq_some_iff.1 head
    rw [shape, List.find?_cons_of_pos isWord]
  obtain ⟨rest, others, division⟩ := words_eq_cons isFirst
  obtain ⟨start, more, capital, starts⟩ := head_upper isWord
  refine ⟨start, more ++ lowerWord rest ++ others.flatMap capitalWord, ?_, starts.trans letter⟩
  rw [toList_className, division, List.flatMap_cons, capitalWord, capital]
  rfl

/-- Only a name without letters and digits has no class name. -/
theorem className_eq_empty_iff (table : String) :
    className table = "" ↔ ∀ character ∈ table.toList, isAlphanumeric character = false := by
  constructor
  · intro empty character member
    cases found : table.toList.find? isAlphanumeric with
    | none => simpa using List.find?_eq_none.1 found character member
    | some first =>
        obtain ⟨start, more, spelled, _⟩ := className_eq_cons found
        rw [empty] at spelled
        cases spelled
  · intro none
    have noWords : snake table.toList = [] := by
      rw [snake, words_eq_nil none]
      rfl
    obtain ⟨front, last, parts, same⟩ := exists_singular_eq table.toList
    rw [noWords] at parts
    obtain ⟨rfl, rfl⟩ := List.append_eq_nil_iff.1 parts.symm
    rw [className, same]
    rfl

/-- The capital form of every letter that a word of the singular starts with is
made of letters, digits and underscores. -/
def keepsCapitals (table : String) : Bool :=
  (words (singular table.toList)).all fun word =>
    word.head?.all fun letter => (upper letter).all isWordCharacter

/-- Behind their capitals the words of a class name are letters and digits. -/
theorem all_isWordCharacter_className (table : String) :
    (className table).toList.all isWordCharacter = keepsCapitals table := by
  rw [toList_className, List.all_flatMap, keepsCapitals, Bool.eq_iff_iff, List.all_eq_true,
    List.all_eq_true]
  refine forall₂_congr fun word inWords => ?_
  cases word with
  | nil => exact absurd rfl (ne_nil_of_mem_words inWords)
  | cons letter rest =>
      have behind : (lowerWord rest).all isWordCharacter = true := by
        rw [List.all_eq_true]
        intro image member
        have inRest : ∀ other ∈ rest, other ∈ singular table.toList ∧
            isAlphanumeric other = true :=
          fun other inRest => mem_of_mem_words inWords (List.mem_cons_of_mem letter inRest)
        have isWord := isAlphanumeric_of_mem_lowerWord (fun other there => (inRest other there).2)
          (fun dotted => dotted_notMem_singular table.toList (inRest _ dotted).1) image member
        rw [isWordCharacter, isWord, Bool.true_or]
      rw [capitalWord, List.all_append, behind, Bool.and_true]
      rfl

/-- A class name is an identifier if the first letter or digit of the table name
is a letter, and the capitals of its words are kept. -/
theorem isIdentifier_className (table : String) :
    isIdentifier (className table) =
      ((table.toList.find? isAlphanumeric).any isAlphabetic && keepsCapitals table) := by
  cases found : table.toList.find? isAlphanumeric with
  | none =>
      have empty := (className_eq_empty_iff table).2 fun character member => by
        simpa using List.find?_eq_none.1 found character member
      rw [empty]
      rfl
  | some first =>
      obtain ⟨start, more, spelled, starts⟩ := className_eq_cons found
      rw [← all_isWordCharacter_className, isIdentifier, spelled, List.all_cons, Option.any_some,
        ← starts]
      change (isWordStart start && more.all isWordCharacter) = _
      cases isStart : isWordStart start with
      | false => rw [Bool.false_and, Bool.false_and]
      | true => rw [isWordCharacter_of_isWordStart isStart, Bool.true_and, Bool.true_and]

end FormRules.Naming
