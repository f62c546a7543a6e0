/-!
Contract: numbers in hexadecimal digits, and the characters they stand for.

Owns: digits in letters of either case, and the characters with a code.

Does not own: the escapes that such codes are part of.
-/

namespace FormRules.Text

def hexDigit? (digit : Char) : Option Nat :=
  if digit.isDigit then some (digit.toNat - '0'.toNat)
  else if 'a' ≤ digit && digit ≤ 'f' then some (digit.toNat - 'a'.toNat + 10)
  else if 'A' ≤ digit && digit ≤ 'F' then some (digit.toNat - 'A'.toNat + 10)
  else none

/-- The value of some digits, the most significant first. -/
def hexValue? (digits : List Char) : Option Nat :=
  digits.foldlM (fun value digit => (hexDigit? digit).map fun next => value * 16 + next) 0

/-- The character with a code; surrogates and codes beyond the last one have
none. -/
def characterOf? (code : Nat) : Option Char :=
  if code < 0xD800 || (0xDFFF < code && code ≤ 0x10FFFF) then some (Char.ofNat code) else none

end FormRules.Text
