import FormRules.Toml.Number

/-!
Contract: the dates and times of a TOML document.

Owns: their forms, and the ranges of their parts.

Does not own: any arithmetic; a moment is passed on as it is written.
-/

namespace FormRules.Toml

open FormRules.Text

/-- Exactly so many digits, with a value in a range. -/
def readPart (count low high : Nat) (source : List Char) : Option (Nat × List Char) :=
  let digits := source.take count
  if digits.length = count && digits.all Char.isDigit && low ≤ digitsValue digits &&
      digitsValue digits ≤ high then
    some (digitsValue digits, source.drop count)
  else none

def readMark (mark : Char) : List Char → Option (List Char)
  | [] => none
  | first :: rest => if first = mark then some rest else none

def isLeapYear (year : Nat) : Bool :=
  year % 4 == 0 && (year % 100 != 0 || year % 400 == 0)

def daysOfMonth (year month : Nat) : Nat :=
  if month = 2 then (if isLeapYear year then 29 else 28)
  else if [4, 6, 9, 11].contains month then 30
  else 31

/-- Year, month and day; the result is the text after them. -/
def readDate (source : List Char) : Option (List Char) := do
  let (year, rest) ← readPart 4 0 9999 source
  let rest ← readMark '-' rest
  let (month, rest) ← readPart 2 1 12 rest
  let rest ← readMark '-' rest
  let (_, rest) ← readPart 2 1 (daysOfMonth year month) rest
  return rest

/-- Hour, minute and second, and a fraction of a second if it is given.  A
minute may have a leap second. -/
def readTime (source : List Char) : Option (List Char) := do
  let (_, rest) ← readPart 2 0 23 source
  let rest ← readMark ':' rest
  let (_, rest) ← readPart 2 0 59 rest
  let rest ← readMark ':' rest
  let (_, rest) ← readPart 2 0 60 rest
  match rest with
  | '.' :: digit :: more =>
      if digit.isDigit then return (digit :: more).dropWhile Char.isDigit else return rest
  | _ => return rest

/-- The distance from universal time. -/
def readOffset : List Char → Option (List Char)
  | [] => none
  | first :: rest =>
      if first = 'Z' || first = 'z' then some rest
      else if first = '+' || first = '-' then do
        let (_, rest) ← readPart 2 0 23 rest
        let rest ← readMark ':' rest
        let (_, rest) ← readPart 2 0 59 rest
        return rest
      else none

/-- A time after its separator, with an offset if it is given. -/
def readTimeOfDay : List Char → Option (List Char)
  | [] => none
  | first :: rest =>
      if first = 'T' || first = 't' || first = ' ' then
        (readTime rest).map fun after => (readOffset after).getD after
      else none

/-- A date, a date with a time, or a time; the result is the text after it. -/
def readMoment (source : List Char) : Option (List Char) :=
  match readDate source with
  | some rest => some ((readTimeOfDay rest).getD rest)
  | none => readTime source

end FormRules.Toml
