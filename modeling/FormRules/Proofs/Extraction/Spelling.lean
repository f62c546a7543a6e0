import FormRules.Proofs.Statement.Relabel
import FormRules.Proofs.Text.LetterCase
import Mathlib.Data.List.Forall2

/-!
Contract: the case of ASCII letters in identifiers is not seen.

Owns:
- token lists that differ in the case of their identifiers only;
- the folded form that such lists have in common, with its extraction.

Does not own: texts, variables and numbers, which are kept as they are.

Each identifier may be respelled in a way of its own, so one token list is in
general no relabelling of the other.  Both have the same folded form, however, and
that is a relabelling of either.
-/

namespace FormRules

open FormRules.Text

namespace Token

/-- The kinds are equal, or are identifiers that are equal up to the case of ASCII
letters. -/
def Kind.SpelledAlike : Kind → Kind → Prop
  | .identifier left, .identifier right => sameIgnoringCase left right = true
  | left, right => left = right

instance (left right : Kind) : Decidable (left.SpelledAlike right) := by
  unfold Kind.SpelledAlike
  split <;> infer_instance

/-- The token with its identifier in small letters, and without its line. -/
def folded (token : Token) : Token :=
  token.relabel Text.folded fun _ => 0

theorem relabel_folded_eq_iff {left right : Kind} :
    left.relabel Text.folded = right.relabel Text.folded ↔ left.SpelledAlike right := by
  cases left <;> cases right <;> simp [Kind.relabel, Kind.SpelledAlike, folded_eq_iff]

theorem map_folded_eq_iff {left right : List Token} :
    left.map folded = right.map folded ↔
      List.Forall₂ (fun first second => first.kind.SpelledAlike second.kind) left right := by
  rw [← List.forall₂_eq_eq_eq]
  simp [List.forall₂_map_left_iff, List.forall₂_map_right_iff, folded, relabel,
    relabel_folded_eq_iff]

end Token

/-- A method names the same type in every spelling. -/
theorem ColumnType.ofMethod_folded (method : String) :
    ofMethod (folded method) = ofMethod method := by
  rw [ofMethod, ofMethod, lowercase_folded]

namespace Extraction

theorem ofTokens_folded (skip : SkipLists) (tokens : List Token) :
    ofTokens skip (tokens.map Token.folded) = ofTokens skip tokens :=
  ofTokens_relabel (fun _ => 0) asciiFold_folded ColumnType.ofMethod_folded skip tokens

/-- Token lists that differ only in the case of ASCII letters in identifiers have
the same extraction: the same table name, and the same columns with their types,
attributes and order. -/
theorem ofTokens_of_spelledAlike (skip : SkipLists) {left right : List Token}
    (alike : List.Forall₂ (fun first second => first.kind.SpelledAlike second.kind) left right) :
    ofTokens skip left = ofTokens skip right :=
  calc ofTokens skip left
      = ofTokens skip (left.map Token.folded) := (ofTokens_folded skip left).symm
    _ = ofTokens skip (right.map Token.folded) := by rw [Token.map_folded_eq_iff.2 alike]
    _ = ofTokens skip right := ofTokens_folded skip right

/-- Every identifier is spelled in another way.  The method of the first column has
a final sigma, the letters before which are small on one side only. -/
theorem ofTokens_of_spelledAlike_final_sigma :
    let left := Token.tokenize "Schema::create('t', f);$table->setΣ('a')->nullable(false);
      $table->string('b', length: 5)->foreign('c');$table->unique('a');"
    let right := Token.tokenize "SCHEMA::Create('t', F);$table->SETΣ('a')->Nullable(FALSE);
      $table->String('b', Length: 5)->Foreign('c');$table->Unique('a');"
    List.Forall₂ (fun first second => first.kind.SpelledAlike second.kind) left right ∧
    createdTable? left = some "t" ∧
    (Table.ofStatements .none "t" (statements left)).columns =
      [{ name := "a", type := .unknown "setς", unique := true },
       { name := "b", type := .string, length := some 5, foreign := some ⟨"c", none⟩ }] ∧
    ofTokens .none left = ofTokens .none right := by
  intro left right
  have evaluated :
      List.Forall₂ (fun first second => first.kind.SpelledAlike second.kind) left right ∧
      createdTable? left = some "t" ∧
      (Table.ofStatements .none "t" (statements left)).columns =
        [{ name := "a", type := .unknown "setς", unique := true },
         { name := "b", type := .string, length := some 5, foreign := some ⟨"c", none⟩ }] := by
    decide +kernel
  exact ⟨evaluated.1, evaluated.2.1, evaluated.2.2, ofTokens_of_spelledAlike .none evaluated.1⟩

end Extraction

end FormRules
