import FormRules.Text.Decimal

/-!
Contract: text in the styles of a terminal.

Owns: the styles, and the orders that switch them on and off.

Does not own: whether a terminal is there to obey.
-/

namespace FormRules.Terminal

inductive Style where
  | bold
  | dimmed
  | red
  | green
  | yellow
  | cyan
deriving DecidableEq, Repr

def Style.code : Style → Nat
  | .bold => 1
  | .dimmed => 2
  | .red => 31
  | .green => 32
  | .yellow => 33
  | .cyan => 36

/-- The order that switches styles on. -/
def start (styles : List Style) : List Char :=
  '\x1b' :: '[' :: ((";".intercalate (styles.map fun style => Text.decimal style.code)).toList ++
    ['m'])

/-- The order that switches all styles off. -/
def reset : List Char := ['\x1b', '[', '0', 'm']

/-- A text in which styles that have been switched off are switched on again. -/
def restart (order : List Char) : List Char → List Char
  | '\x1b' :: '[' :: '0' :: 'm' :: rest => reset ++ order ++ restart order rest
  | character :: rest => character :: restart order rest
  | [] => []

/-- A text in some styles, or as it is if colours are off. -/
def paint (colours : Bool) (styles : List Style) (text : String) : String :=
  if colours then
    String.ofList (start styles ++ restart (start styles) text.toList ++ reset)
  else text

end FormRules.Terminal
