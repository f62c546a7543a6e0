import FormRules.Proofs.Token.Seam
import Mathlib.Data.List.TFAE
import Mathlib.Tactic.TFAE

/-!
Contract: identifiers are the words that the scanner takes as they are.

Owns:
- the one way to write the token of an identifier, and that of a variable;
- a text is an identifier exactly if its scan, alone, behind a dollar sign or in
  front of other text, gives it back as one token.

Does not own: where a name may stand in a declaration.

From the check to the scan, a word has to be shown to be the longest one where it
stands.  The way back is shorter: the token holds the text, and whatever a token of
these two kinds holds is a word.
-/

namespace FormRules.Token

open FormRules.Text

/-! ## Words where they stand -/

/-- The text does not go on with a word character. -/
def EndsWord (follow : List Char) : Prop :=
  ∀ next ∈ follow.head?, isWordCharacter next = false

theorem IsWord.isLongest {name : String} {follow : List Char} (word : IsWord name)
    (ends : EndsWord follow) : IsLongest IsWord name follow := by
  refine ⟨word, ?_⟩
  intro longer longerWord begins
  obtain ⟨_, _, _, _, inside⟩ := word.exists_cons
  obtain ⟨_, _, _, _, longerInside⟩ := longerWord.exists_cons
  have stops : follow.takeWhile isWordCharacter = [] := by
    cases follow with
    | nil => rfl
    | cons next more => rw [List.takeWhile_cons, if_neg (by rw [ends next rfl]; decide)]
  have atMost := length_le_takeWhile longerInside begins
  rwa [List.takeWhile_append_of_pos inside, stops, List.append_nil] at atMost

theorem IsWord.lineFeeds_eq {name : String} (word : IsWord name) : lineFeeds name.toList = 0 :=
  List.count_eq_zero.2 (word.no_blank (by decide))

theorem IsLexeme.of_identifier {follow written : List Char} {name : String}
    (isLexeme : IsLexeme follow (.identifier name) written) :
    written = name.toList ∧ IsWord name := by
  generalize same : Token.Kind.identifier name = kind at isLexeme
  cases isLexeme with
  | identifier longest =>
      cases same
      exact ⟨rfl, longest.1⟩
  | symbol alone =>
      unfold Token.Kind.ofSymbol at same
      split at same <;> cases same
  | _ => cases same

theorem IsLexeme.of_variable {follow written : List Char} {name : String}
    (isLexeme : IsLexeme follow (.variable name) written) :
    written = '$' :: name.toList ∧ IsWord name := by
  generalize same : Token.Kind.variable name = kind at isLexeme
  cases isLexeme with
  | «variable» longest =>
      cases same
      exact ⟨rfl, longest.1⟩
  | symbol alone =>
      unfold Token.Kind.ofSymbol at same
      split at same <;> cases same
  | _ => cases same

/-! ## One token -/

/-- A lexeme at the very front of a source is its first token.  If it is on one
line, the rest is scanned like a source of its own. -/
theorem tokenize_of_isLexeme {source rest : String} {written : List Char} {kind : Token.Kind}
    (split : source.toList = written ++ rest.toList) (oneLine : lineFeeds written = 0)
    (isLexeme : IsLexeme rest.toList kind written) :
    tokenize source = ⟨kind, 1⟩ :: tokenize rest := by
  have scanned := scanFrom_of_isLexeme 1 .nil isLexeme
  rw [List.nil_append, List.nil_append, oneLine] at scanned
  rw [tokenize, split, scanned]
  rfl

/-- The only token of a source is written in some lexeme. -/
theorem exists_isLexeme_of_kinds {source : String} {kind : Token.Kind}
    (only : (tokenize source).map Token.kind = [kind]) :
    ∃ follow written, IsLexeme follow kind written := by
  obtain ⟨pieces, lastGap, remainder, split, tokens⟩ := exists_isSplit 1 source.toList
  rw [tokenize, tokens, List.map_map, List.map_eq_singleton_iff] at only
  obtain ⟨piece, rfl, rfl⟩ := only
  exact ⟨_, piece.written, split.lexemes [] piece [] rfl⟩

/-- A name can stand verbatim in a source exactly if it is an identifier: then the
scanner reads it as one token, alone or in front of any text that does not lengthen
it, and behind a dollar sign as one variable. -/
theorem isIdentifier_tfae (name : String) :
    List.TFAE [
      isIdentifier name = true,
      tokenize name = [⟨.identifier name, 1⟩],
      (tokenize name).map Token.kind = [.identifier name],
      tokenize ("$" ++ name) = [⟨.variable name, 1⟩],
      (tokenize ("$" ++ name)).map Token.kind = [.variable name],
      ∀ rest : String, EndsWord rest.toList →
        tokenize (name ++ rest) = ⟨.identifier name, 1⟩ :: tokenize rest,
      ∀ rest : String, EndsWord rest.toList →
        tokenize ("$" ++ name ++ rest) = ⟨.variable name, 1⟩ :: tokenize rest] := by
  have noRest : EndsWord "".toList := by simp [EndsWord]
  have nothing : tokenize "" = [] := scanFrom_of_end rfl
  tfae_have 1 → 6 := by
    intro word rest ends
    exact tokenize_of_isLexeme String.toList_append (IsWord.lineFeeds_eq word)
      (.identifier (IsWord.isLongest word ends))
  tfae_have 6 → 2 := by
    intro inFront
    have alone := inFront "" noRest
    rwa [String.append_empty, nothing] at alone
  tfae_have 2 → 3 := fun alone => by rw [alone]; rfl
  tfae_have 3 → 1 := by
    intro only
    obtain ⟨_, _, isLexeme⟩ := exists_isLexeme_of_kinds only
    exact isLexeme.of_identifier.2
  tfae_have 1 → 7 := by
    intro word rest ends
    have oneLine : lineFeeds ('$' :: name.toList) = 0 := by
      rw [lineFeeds, List.count_cons_of_ne (by decide)]
      exact IsWord.lineFeeds_eq word
    apply tokenize_of_isLexeme _ oneLine (.variable (IsWord.isLongest word ends))
    rw [String.toList_append, String.toList_append]
    rfl
  tfae_have 7 → 4 := by
    intro inFront
    have alone := inFront "" noRest
    rwa [String.append_empty, nothing] at alone
  tfae_have 4 → 5 := fun alone => by rw [alone]; rfl
  tfae_have 5 → 1 := by
    intro only
    obtain ⟨_, _, isLexeme⟩ := exists_isLexeme_of_kinds only
    exact isLexeme.of_variable.2
  tfae_finish

end FormRules.Token
