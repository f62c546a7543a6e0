import FormRules.Text.CodePoints

/-!
Contract: which characters separate tokens without being part of one.

Owns: the set of characters with the Unicode property White_Space.

Does not own: comments, which the scanner skips as well.
-/

namespace FormRules.Text

/-- Code points from U+0080 on with the property White_Space. -/
def blankRanges : List (Nat × Nat) :=
   [(0x85, 0x85), (0xA0, 0xA0), (0x1680, 0x1680), (0x2000, 0x200A), (0x2028, 0x2029),
    (0x202F, 0x202F), (0x205F, 0x205F), (0x3000, 0x3000)]

/-- Tab, line feed, vertical tab, form feed, carriage return, space, or a
non-ASCII character with the property White_Space. -/
def isBlank (character : Char) : Bool :=
  if character.toNat < 0x80 then
    character == ' ' || (9 ≤ character.toNat && character.toNat ≤ 13)
  else inRanges blankRanges character.toNat

end FormRules.Text
