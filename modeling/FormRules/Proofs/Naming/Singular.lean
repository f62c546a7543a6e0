import FormRules.Naming
import Mathlib.Data.List.Infix

/-!
Contract: the singular of a word, and the singular of that.

Owns:
- the ways in which a singular is made;
- the singular keeps the first letter of a word, and what is new in it is small
  ASCII letters;
- the words that a second singular changes, exactly.

Does not own: names of more than one word.

What a rule makes may fall under any other rule.  That none of them has anything
left to do is therefore said once, of a word alone (`IsSettled`), and each way of
making a singular is shown to end in such a word.  One does not: a word may be an
irregular plural with one more s.
-/

namespace FormRules.Naming

/-! ## The ways in which a singular is made -/

theorem eq_append_of_stem? {word ending stem : List Char} (found : stem? word ending = some stem) :
    word = stem ++ ending := by
  unfold stem? at found
  split at found
  next isSuffix =>
    obtain ⟨front, rfl⟩ := List.isSuffixOf_iff_suffix.1 isSuffix
    have stem := Option.some.inj found
    rw [List.length_append, Nat.add_sub_cancel, List.take_left] at stem
    rw [stem]
  next => cases found

theorem stem?_eq_none_iff {word ending : List Char} :
    stem? word ending = none ↔ ¬ ending <:+ word := by
  rw [stem?, ← List.isSuffixOf_iff_suffix]
  split <;> simp_all

/-- No ending of the table stands at the end of the word. -/
def HasNoEnding (word : List Char) : Prop :=
  ∀ pair ∈ endings, ¬ pair.1.toList <:+ word

theorem byEnding?_eq_none_iff {word : List Char} : byEnding? word = none ↔ HasNoEnding word := by
  rw [byEnding?, List.findSome?_eq_none_iff]
  refine forall₂_congr fun pair _ => ?_
  rw [Option.map_eq_none_iff, stem?_eq_none_iff]

/-- The singular of a word, by the rule that makes it.  The last two rules are
for words that no ending of the table applies to. -/
inductive SingularBy : List Char → List Char → Prop
  | kept (word : List Char) : SingularBy word word
  | irregular {pair : String × String} (listed : pair ∈ irregular) :
      SingularBy pair.1.toList pair.2.toList
  | ending {pair : String × String} (listed : pair ∈ endings) (stem : List Char) :
      SingularBy (stem ++ pair.1.toList) (stem ++ pair.2.toList)
  | consonantY {stem : List Char} (unruled : HasNoEnding (stem ++ "ies".toList))
      (takes : takesY stem = true) : SingularBy (stem ++ "ies".toList) (stem ++ ['y'])
  | shortened {stem : List Char} (unruled : HasNoEnding (stem ++ ['s'])) (filled : stem ≠ []) :
      SingularBy (stem ++ ['s']) stem

theorem singularBy_withoutFinalS {word : List Char} (unruled : HasNoEnding word) :
    SingularBy word (withoutFinalS word) := by
  unfold withoutFinalS
  split
  next first rest found =>
    obtain rfl := eq_append_of_stem? found
    exact .shortened unruled (List.cons_ne_nil first rest)
  next => exact .kept word

theorem singularBy_singularWord (word : List Char) : SingularBy word (singularWord word) := by
  unfold singularWord
  split
  · exact .kept word
  split
  next singular found =>
    obtain ⟨front, back, rows, _⟩ := List.lookup_eq_some_iff.1 found
    have listed : (word, singular) ∈ irregular.map fun pair => (pair.1.toList, pair.2.toList) := by
      simp [rows]
    obtain ⟨pair, inTable, same⟩ := List.mem_map.1 listed
    cases same
    exact .irregular inTable
  next =>
    cases byEnding : byEnding? word with
    | some singular =>
        obtain ⟨pair, inTable, found⟩ := List.exists_of_findSome?_eq_some byEnding
        obtain ⟨stem, hasEnding, rfl⟩ := Option.map_eq_some_iff.1 found
        obtain rfl := eq_append_of_stem? hasEnding
        exact .ending inTable stem
    | none =>
        have unruled := byEnding?_eq_none_iff.1 byEnding
        cases byConsonantY : byConsonantY? word with
        | some singular =>
            obtain ⟨stem, hasEnding, found⟩ := Option.bind_eq_some_iff.1 byConsonantY
            obtain rfl := eq_append_of_stem? hasEnding
            split at found
            next takes =>
              cases Option.some.inj found
              exact .consonantY unruled takes
            next => cases found
        | none => exact singularBy_withoutFinalS unruled

/-! ## What a singular keeps -/

/-- A small ASCII letter. -/
def isSmallLetter (character : Char) : Bool :=
  'a' ≤ character && character ≤ 'z'

private theorem replacement_heads : ∀ pair ∈ irregular ++ endings,
    pair.2.toList.head? = pair.1.toList.head? ∧ pair.2.toList.all isSmallLetter = true := by
  decide

/-- The ending of a word is replaced by small letters, which start like it if
nothing of the word is kept before them. -/
structure Replaces (word singular stem ending replacement : List Char) : Prop where
  word : word = stem ++ ending
  singular : singular = stem ++ replacement
  small : replacement.all isSmallLetter = true
  start : stem = [] → replacement.head? = ending.head?

theorem exists_replaces_singularWord (word : List Char) :
    ∃ stem ending replacement, Replaces word (singularWord word) stem ending replacement := by
  have made := singularBy_singularWord word
  generalize singularWord word = singular at made
  cases made with
  | kept =>
      exact ⟨word, [], [], (List.append_nil _).symm, (List.append_nil _).symm, rfl, fun _ => rfl⟩
  | irregular listed =>
      obtain ⟨heads, small⟩ := replacement_heads _ (List.mem_append_left _ listed)
      exact ⟨[], _, _, rfl, rfl, small, fun _ => heads⟩
  | ending listed stem =>
      obtain ⟨heads, small⟩ := replacement_heads _ (List.mem_append_right _ listed)
      exact ⟨stem, _, _, rfl, rfl, small, fun _ => heads⟩
  | @consonantY stem _ takes =>
      refine ⟨stem, _, ['y'], rfl, rfl, by decide, ?_⟩
      rintro rfl
      simp [takesY] at takes
  | shortened _ filled =>
      exact ⟨singular, _, [], rfl, (List.append_nil _).symm, rfl, fun empty => absurd empty filled⟩

theorem head?_singularWord (word : List Char) : (singularWord word).head? = word.head? := by
  obtain ⟨stem, ending, replacement, replaces⟩ := exists_replaces_singularWord word
  rw [replaces.singular, replaces.word]
  cases stem with
  | nil => exact replaces.start rfl
  | cons first rest => rfl

theorem singularWord_eq_nil_iff (word : List Char) : singularWord word = [] ↔ word = [] := by
  rw [← List.head?_eq_none_iff, head?_singularWord, List.head?_eq_none_iff]

theorem mem_or_isSmallLetter_of_mem_singularWord {word : List Char} {character : Char}
    (member : character ∈ singularWord word) :
    character ∈ word ∨ isSmallLetter character = true := by
  obtain ⟨stem, ending, replacement, replaces⟩ := exists_replaces_singularWord word
  rw [replaces.singular] at member
  rw [replaces.word]
  rcases List.mem_append.1 member with kept | new
  · exact .inl (List.mem_append_left _ kept)
  · exact .inr (List.all_eq_true.1 replaces.small character new)

/-! ## Settled words -/

/-- No rule changes the word: it is no irregular plural, all endings that it has
become themselves, and it has one if it ends in s. -/
structure IsSettled (word : List Char) : Prop where
  regular : ∀ pair ∈ irregular, pair.1.toList ≠ word
  guarded : ∀ pair ∈ endings, pair.1.toList <:+ word → pair.2 = pair.1
  marked : ['s'] <:+ word → ¬ HasNoEnding word

theorem IsSettled.singularWord_eq {word : List Char} (settled : IsSettled word) :
    singularWord word = word := by
  have made := singularBy_singularWord word
  generalize singularWord word = singular at made
  cases made with
  | kept => rfl
  | irregular listed => exact absurd rfl (settled.regular _ listed)
  | ending listed stem => rw [settled.guarded _ listed (List.suffix_append _ _)]
  -- The last two rules take words in s that have no ending of the table.
  | @consonantY stem unruled _ =>
      have finalS : ['s'] <:+ stem ++ "ies".toList := ⟨stem ++ ['i', 'e'], by simp⟩
      exact absurd unruled (settled.marked finalS)
  | shortened unruled _ => exact absurd unruled (settled.marked (List.suffix_append _ _))

/-- The plurals of the table that do not end in s themselves. -/
def barePlurals : List (List Char) :=
  (irregular.map fun pair => pair.1.toList).filter fun plural => !List.isSuffixOf ['s'] plural

private theorem irregular_settled : ∀ pair ∈ irregular,
    ¬ ['s'] <:+ pair.2.toList ∧ (∀ other ∈ irregular, other.1 ≠ pair.2) ∧
      ¬ ['y'] <:+ pair.1.toList := by
  decide

/-- How far an ending that has been replaced can be taken for another one, in
part or as the end of a longer one. -/
private theorem endings_settled : ∀ pair ∈ endings,
    ['s'] <:+ pair.1.toList ∧
    (∀ other ∈ irregular, ¬ pair.2.toList <:+ other.1.toList) ∧
    (∀ other ∈ endings,
      other.1.toList <:+ pair.2.toList ∨ pair.2.toList <:+ other.1.toList → other.2 = other.1) ∧
    (['s'] <:+ pair.2.toList ∨ pair.2.toList <:+ ['s'] →
      ∃ other ∈ endings, other.1.toList <:+ pair.2.toList) := by
  decide

theorem isSettled_of_no_s {word : List Char} (noS : ¬ ['s'] <:+ word)
    (regular : ∀ pair ∈ irregular, pair.1.toList ≠ word) : IsSettled word where
  regular := regular
  guarded _ listed ends := absurd ((endings_settled _ listed).1.trans ends) noS
  marked ends := absurd ends noS

theorem isSettled_irregular {pair : String × String} (listed : pair ∈ irregular) :
    IsSettled pair.2.toList := by
  obtain ⟨noS, regular, _⟩ := irregular_settled _ listed
  exact isSettled_of_no_s noS fun other inTable same =>
    regular other inTable (String.toList_inj.1 same)

theorem isSettled_ending {pair : String × String} (listed : pair ∈ endings) (stem : List Char) :
    IsSettled (stem ++ pair.2.toList) := by
  obtain ⟨_, regular, guarded, marked⟩ := endings_settled _ listed
  -- Whatever ends the word is an end of the replacement, or ends in it.
  have replacement := List.suffix_append stem pair.2.toList
  refine ⟨?regular, ?guarded, ?marked⟩
  case regular =>
    intro other inTable same
    exact regular other inTable (same ▸ replacement)
  case guarded =>
    intro other inTable ends
    exact guarded other inTable (List.suffix_or_suffix_of_suffix ends replacement)
  case marked =>
    intro ends unruled
    obtain ⟨other, inTable, inside⟩ :=
      marked (List.suffix_or_suffix_of_suffix ends replacement)
    exact unruled other inTable (inside.trans replacement)

theorem isSettled_consonantY (stem : List Char) : IsSettled (stem ++ ['y']) := by
  apply isSettled_of_no_s
  · intro ends
    have overlap := List.suffix_or_suffix_of_suffix ends (List.suffix_append stem ['y'])
    revert overlap
    decide
  · intro pair listed same
    exact (irregular_settled _ listed).2.2 (same ▸ List.suffix_append stem ['y'])

/-- Without its s a word does not end in s, or the ending ss would have kept it. -/
theorem no_s_of_hasNoEnding {stem : List Char} (unruled : HasNoEnding (stem ++ ['s'])) :
    ¬ ['s'] <:+ stem := by
  rintro ⟨front, rfl⟩
  exact unruled ("ss", "ss") (by decide) ⟨front, by simp⟩

theorem isSettled_shortened {stem : List Char} (unruled : HasNoEnding (stem ++ ['s']))
    (other : stem ∉ barePlurals) : IsSettled stem := by
  have noS := no_s_of_hasNoEnding unruled
  refine isSettled_of_no_s noS fun pair listed same => other ?_
  rw [barePlurals, List.mem_filter, List.mem_map]
  refine ⟨⟨pair, listed, same⟩, ?_⟩
  rwa [Bool.not_eq_true', Bool.eq_false_iff, Ne, List.isSuffixOf_iff_suffix]

/-! ## The singular of a singular -/

theorem singularWord_singularWord_or_bare (word : List Char) :
    singularWord (singularWord word) = singularWord word ∨
      ∃ plural ∈ barePlurals, word = plural ++ ['s'] := by
  have made := singularBy_singularWord word
  generalize same : singularWord word = singular at made
  cases made with
  | kept => exact .inl same
  | irregular listed => exact .inl (isSettled_irregular listed).singularWord_eq
  | ending listed stem => exact .inl (isSettled_ending listed stem).singularWord_eq
  | @consonantY stem _ _ => exact .inl (isSettled_consonantY stem).singularWord_eq
  | shortened unruled _ =>
      by_cases bare : singular ∈ barePlurals
      · exact .inr ⟨singular, bare, rfl⟩
      · exact .inl (isSettled_shortened unruled bare).singularWord_eq

/-- An irregular plural with one more s loses that s first, and takes its
irregular form the second time. -/
private theorem barePlurals_unsettled : ∀ plural ∈ barePlurals,
    singularWord (plural ++ ['s']) = plural ∧ singularWord plural ≠ plural ∧
      singularWord (singularWord plural) = singularWord plural := by
  decide

/-- No word is lost, and the singular of a singular is that singular, but for ten
words: the irregular plurals that do not end in s, with an s behind them.  These
take one step more, and then no word changes any further. -/
theorem singularWord_singularWord_eq_iff (word : List Char) :
    (singularWord word = [] ↔ word = []) ∧
    (singularWord (singularWord word) = singularWord word ↔
      ∀ plural ∈ barePlurals, word ≠ plural ++ ['s']) ∧
    barePlurals = ["people", "men", "women", "children", "mice", "geese", "feet", "teeth", "oxen",
      "criteria"].map String.toList ∧
    singularWord (singularWord (singularWord word)) = singularWord (singularWord word) := by
  refine ⟨singularWord_eq_nil_iff word, ⟨?excluded, ?others⟩, by decide, ?third⟩
  case excluded =>
    rintro again plural bare rfl
    obtain ⟨shortened, changes, _⟩ := barePlurals_unsettled plural bare
    rw [shortened] at again
    exact changes again
  case others =>
    intro none
    rcases singularWord_singularWord_or_bare word with again | ⟨plural, bare, same⟩
    · exact again
    · exact absurd same (none plural bare)
  case third =>
    rcases singularWord_singularWord_or_bare word with again | ⟨plural, bare, rfl⟩
    · rw [again, again]
    · obtain ⟨shortened, _, irregular⟩ := barePlurals_unsettled plural bare
      rw [shortened, irregular]

end FormRules.Naming
