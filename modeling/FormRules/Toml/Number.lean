import FormRules.Text.Decimal
import FormRules.Toml.Literal

/-!
Contract: the numbers of a TOML document.

Owns:
- whole numbers in four bases, which have to fit in 64 bits;
- floating-point numbers, which must not be too large.

Does not own: what a number means to a program; numbers are passed on as they
are written.
-/

namespace FormRules.Toml

open FormRules.Text

/-- Digits, each of which but the first may follow an underscore; the value
leaves the underscores out. -/
def readDigits (isDigit : Char → Bool) : List Char → Option (List Char × List Char)
  | [] => none
  | first :: rest => if isDigit first then some (more [first] rest) else none
where
  more (before : List Char) : List Char → List Char × List Char
    | '_' :: digit :: rest =>
        if isDigit digit then more (before ++ [digit]) rest else (before, '_' :: digit :: rest)
    | digit :: rest =>
        if isDigit digit then more (before ++ [digit]) rest else (before, digit :: rest)
    | [] => (before, [])

/-- An optional sign. -/
def readSign : List Char → List Char × List Char
  | '+' :: rest => ([], rest)
  | '-' :: rest => (['-'], rest)
  | source => ([], source)

/-- A decimal whole number without sign: a zero alone, or digits that do not
start with one. -/
def readWhole : List Char → Option (List Char × List Char)
  | '0' :: rest => some (['0'], rest)
  | source => readDigits Char.isDigit source

/-- The largest signed number of 64 bits. -/
def largestInteger : Nat := 9223372036854775807

def readDecimal (source : List Char) : Option (String × List Char) := do
  let (sign, unsigned) := readSign source
  let (digits, rest) ← readWhole unsigned
  let limit := if sign = [] then largestInteger else largestInteger + 1
  if digitsValue digits ≤ limit then some (String.ofList (sign ++ digits), rest) else none

/-- Digits in a base of at most sixteen, after the letter for the base. -/
def readInBase (base : Nat) (source : List Char) : Option (String × List Char) := do
  let (digits, rest) ← readDigits (fun digit => (hexDigit? digit).any (· < base)) source
  let value := digits.foldl (fun value digit => value * base + (hexDigit? digit).getD 0) 0
  if value ≤ largestInteger then some (decimal value, rest) else none

def readInteger : List Char → Option (String × List Char)
  | '0' :: 'x' :: rest => readInBase 16 rest
  | '0' :: 'o' :: rest => readInBase 8 rest
  | '0' :: 'b' :: rest => readInBase 2 rest
  | source => readDecimal source

/-! ## Floating-point numbers -/

/-- From this number on, the nearest double-precision number is infinite. -/
def overflowBound : Nat := Nat.pow 2 1024 - Nat.pow 2 970

/-- Whether digits, moved by a power of ten, stand for a number that is too
large.  The exponent counts only where it decides. -/
def overflows (digits : List Char) (exponent : Int) : Bool :=
  let value := digitsValue digits
  let size := (Nat.toDigits 10 value).length + exponent
  if value = 0 || size < 309 then false
  else if 309 < size then true
  else if 0 ≤ exponent then overflowBound ≤ value * Nat.pow 10 exponent.toNat
  else overflowBound * Nat.pow 10 (-exponent).toNat ≤ value

/-- A point and digits. -/
def readFraction : List Char → Option (List Char × List Char)
  | '.' :: rest => readDigits Char.isDigit rest
  | _ => none

/-- The letter e, an optional sign and digits. -/
def readExponent : List Char → Option (Int × List Char)
  | first :: rest =>
      if first = 'e' || first = 'E' then
        let (sign, unsigned) := readSign rest
        (readDigits Char.isDigit unsigned).map fun (digits, after) =>
          let value : Int := digitsValue digits
          (if sign = [] then value else -value, after)
      else none
  | [] => none

/-- A decimal number with a fraction, an exponent or both. -/
def readFinite (source : List Char) : Option (String × List Char) := do
  let (sign, unsigned) := readSign source
  let (whole, afterWhole) ← readWhole unsigned
  let (fraction, afterFraction) := (readFraction afterWhole).getD ([], afterWhole)
  let (exponent, rest) := (readExponent afterFraction).getD (0, afterFraction)
  if rest.length = afterWhole.length then none
  else if sign = [] && overflows (whole ++ fraction) (exponent - fraction.length) then none
  else some (String.ofList (source.take (source.length - rest.length)), rest)

/-- The two words for numbers that are not finite. -/
def readNonFinite (source : List Char) : Option (String × List Char) :=
  match (readSign source).2 with
  | 'i' :: 'n' :: 'f' :: rest => some ("inf", rest)
  | 'n' :: 'a' :: 'n' :: rest => some ("nan", rest)
  | _ => none

/-- The longest number at the front of a text. -/
def readNumber (source : List Char) : Option (String × List Char) :=
  ((readFinite source).or (readNonFinite source)).or (readInteger source)

end FormRules.Toml
