/-!
Contract: membership in sets of code points given by ranges.

Owns: the two forms of range the character tables use.

Does not own: any particular table.
-/

namespace FormRules.Text

/-- Some range, ends included, holds the code point. -/
def inRanges (ranges : List (Nat × Nat)) (code : Nat) : Bool :=
  ranges.any fun range => range.1 ≤ code && code ≤ range.2

/-- Some range holds the code point at an even distance from its start. -/
def inAlternations (ranges : List (Nat × Nat)) (code : Nat) : Bool :=
  ranges.any fun range => range.1 ≤ code && code ≤ range.2 && (code - range.1) % 2 == 0

end FormRules.Text
