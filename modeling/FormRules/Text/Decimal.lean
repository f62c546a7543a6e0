/-!
Contract: numbers written in ASCII digits.

Owns:
- the value of a non-empty run of digits;
- the reading of 32-bit lengths and versions;
- the decimal form of a number.

Does not own: fractions, exponents or signs beyond one leading plus.
-/

namespace FormRules.Text

/-- The value of a run of digits, the most significant first. -/
def digitsValue (digits : List Char) : Nat :=
  digits.foldl (fun value digit => value * 10 + (digit.toNat - '0'.toNat)) 0

/-- The value of a text that is a non-empty run of digits. -/
def naturalOf? (digits : List Char) : Option Nat :=
  if !digits.isEmpty && digits.all Char.isDigit then some (digitsValue digits) else none

/-- A natural number that fits in 32 bits. -/
def word32? (value : Nat) : Option UInt32 :=
  if value < UInt32.size then some (UInt32.ofNat value) else none

/-- A 32-bit number in digits, after at most one plus sign. -/
def readWord32? (text : List Char) : Option UInt32 :=
  match text with
  | '+' :: digits => (naturalOf? digits).bind word32?
  | digits => (naturalOf? digits).bind word32?

/-- The shortest run of digits with the value. -/
def decimal (value : Nat) : String :=
  String.ofList (Nat.toDigits 10 value)

end FormRules.Text
