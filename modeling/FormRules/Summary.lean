import FormRules.Settings
import FormRules.Text.Decimal

/-!
Contract: the counts of a run, and the box they are shown in.

Owns:
- the number of bytes in a readable unit;
- the lines of the box.

Does not own: what is counted.
-/

namespace FormRules

/-! ## Sizes -/

/-- The whole number nearest to a quotient; of two that are equally near, the
even one. -/
def roundedQuotient (numerator denominator : Nat) : Nat :=
  let quotient := numerator / denominator
  let twice := 2 * (numerator % denominator)
  if twice < denominator || (twice == denominator && quotient % 2 == 0) then quotient
  else quotient + 1

/-- The nearest number whose binary form has at most 53 digits between its
first and last one. -/
def nearestDouble (value : Nat) : Nat :=
  let unit := Nat.pow 2 (Nat.log2 value + 1 - 53)
  roundedQuotient value unit * unit

/-- A quotient with one digit after the point. -/
def oneDecimal (numerator denominator : Nat) : String :=
  let tenths := roundedQuotient (10 * numerator) denominator
  Text.decimal (tenths / 10) ++ "." ++ Text.decimal (tenths % 10)

/-- A number of bytes, from 1024 on in larger units. -/
def sizeText (bytes : Nat) : String :=
  if bytes < 1024 then Text.decimal bytes ++ " B"
  else if bytes < 1024 * 1024 then oneDecimal bytes 1024 ++ " KB"
  else oneDecimal (nearestDouble bytes) (1024 * 1024) ++ " MB"

/-! ## The box -/

structure Summary where
  outputDirectory : String
  format : Format
  files : Nat
  withoutCreate : Nat
  skippedTables : Nat
  failures : Nat
  /-- The bytes of all generated files. -/
  bytes : Nat
  dryRun : Bool
deriving DecidableEq, Repr

/-- A text with blanks after it, up to a width. -/
def Text.padEnd (width : Nat) (text : String) : String :=
  text ++ String.ofList (List.replicate (width - text.length) ' ')

namespace Summary

/-- The number of columns between the sides of the box. -/
def innerWidth : Nat := 50

/-- A horizontal line between two corners. -/
def rule (left right : Char) : String :=
  String.ofList (left :: List.replicate innerWidth '═' ++ [right, '\n'])

/-- A line of the box; a text that is too long moves its right side. -/
def row (text : String) : String :=
  "║  " ++ Text.padEnd (innerWidth - 2) text ++ "║\n"

def labelled (label value : String) : String :=
  row (Text.padEnd 13 label ++ value)

def title (summary : Summary) : String :=
  if summary.dryRun then "Dry Run Complete (nothing written)"
  else "Request Generation Complete"

def text (summary : Summary) : String :=
  rule '╔' '╗' ++
  row summary.title ++
  rule '╠' '╣' ++
  labelled "Output:" summary.outputDirectory ++
  labelled "Format:" summary.format.name ++
  labelled "Requests:" (Text.decimal summary.files) ++
  labelled "Skipped:" (Text.decimal summary.skippedTables) ++
  labelled "No create:" (Text.decimal summary.withoutCreate) ++
  labelled "Failures:" (Text.decimal summary.failures) ++
  labelled "Total Size:" (sizeText summary.bytes) ++
  rule '╚' '╝'

end Summary

end FormRules
