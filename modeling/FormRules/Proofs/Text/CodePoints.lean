import FormRules.Text.CodePoints

/-!
Contract: sets of code points as the bits of a number.

Owns:
- the number of a table of ranges, and what its bits say;
- tables without a common code point.

Does not own: the tables.

A table has hundreds of ranges.  To compare two of them range by range takes the
kernel seconds, and to compare their numbers next to nothing.
-/

namespace FormRules.Text

/-- All code points from the first to the last one, as the bits of a number. -/
def spanBits (first last : Nat) : Nat :=
  (1 <<< (last + 1 - first) - 1) <<< first

/-- The code points in some ranges, as the bits of a number. -/
def bits : List (Nat × Nat) → Nat
  | [] => 0
  | (first, last) :: ranges => spanBits first last ||| bits ranges

theorem testBit_spanBits (first last code : Nat) :
    (spanBits first last).testBit code = (decide (first ≤ code) && decide (code ≤ last)) := by
  rw [spanBits, Nat.testBit_shiftLeft, Nat.one_shiftLeft, Nat.testBit_two_pow_sub_one,
    Bool.eq_iff_iff]
  simp only [Bool.and_eq_true, decide_eq_true_eq]
  omega

theorem testBit_bits (ranges : List (Nat × Nat)) (code : Nat) :
    (bits ranges).testBit code = inRanges ranges code := by
  induction ranges with
  | nil => exact Nat.zero_testBit code
  | cons range ranges inductionHypothesis =>
      rw [bits, Nat.testBit_or, testBit_spanBits, inductionHypothesis]
      rfl

/-- Two tables are apart if their numbers have no bit in common. -/
theorem inRanges_eq_false_of_apart {left right : List (Nat × Nat)} {code : Nat}
    (apart : bits left &&& bits right = 0) (inside : inRanges left code = true) :
    inRanges right code = false := by
  have common : (bits left &&& bits right).testBit code = false := by
    rw [apart, Nat.zero_testBit]
  rwa [Nat.testBit_and, testBit_bits, testBit_bits, inside, Bool.true_and] at common

end FormRules.Text
