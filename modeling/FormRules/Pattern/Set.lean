import FormRules.Pattern.Piece

/-!
Contract: the sets of characters in a search pattern.

Owns:
- sets by name;
- members and ranges;
- sets within sets, up to the bracket that closes the outermost one.

Does not own: which characters are in a set.
-/

namespace FormRules.Pattern

/-- The sets that have names. -/
def setNames : List String :=
  ["alnum", "alpha", "ascii", "blank", "cntrl", "digit", "graph", "lower", "print", "punct",
   "space", "upper", "word", "xdigit"]

/-- The name of a set between colons, after the opening bracket: whether it is
negated, and the text after the closing bracket. -/
def readNamed? : List Char → Option (Bool × List Char)
  | ':' :: text =>
      let negated := text.head? == some '^'
      let start := if negated then text.tail else text
      let name := start.takeWhile (· != ':')
      match start.drop name.length with
      | ':' :: ']' :: rest =>
          if setNames.contains (String.ofList name) then some (negated, rest) else none
      | _ => none
  | _ => none

/-- Pass hyphens, at most as many as the fuel says. -/
def dropHyphens (options : Options) : Nat → List Char → List Char
  | fuel + 1, '-' :: rest => dropHyphens options fuel (options.skip rest)
  | _, text => text

/-- The members of a set after its opening bracket, without the signs that
mean themselves there: hyphens, or else a closing bracket.  A negated set is for
the wide reading. -/
def openSet (options : Options) (text : List Char) : Option (List Char) :=
  let start := options.skip text
  let negated := start.head? == some '^'
  let members := if negated then options.skip start.tail else start
  if negated && !options.wide then none
  else
    match members with
    | ']' :: rest => some rest
    | _ => some (dropHyphens options members.length members)

/-- A member of a set, as it is written. -/
def readItem (options : Options) : List Char → Option (Piece × List Char)
  | [] => none
  | '\\' :: rest => readEscape options rest
  | character :: rest => some (.literal character, rest)

/-- A hyphen that makes a range of its two neighbours. -/
def isRangeMark (options : Options) : List Char → Bool
  | '-' :: rest =>
      match options.skip rest with
      | ']' :: _ => false
      | '-' :: _ => false
      | _ => true
  | _ => false

/-- One member or one range; the result is the text after it. -/
def readMember (options : Options) (text : List Char) : Option (List Char) := do
  let (first, afterFirst) ← readItem options text
  let rest := options.skip afterFirst
  if isRangeMark options rest then
    let (last, after) ← readItem options (options.skip rest.tail)
    let low ← first.character?
    let high ← last.character?
    if low ≤ high && options.admitsInSet first && options.admitsInSet last then some after
    else none
  else if options.admitsInSet first then some rest
  else none

/-- The text after a set and the sets around it, of which there are as many as
the depth says.  Members are read one by one, at most as many as the fuel
says. -/
def readMembers (options : Options) : Nat → Nat → List Char → Option (List Char)
  | 0, _, _ => none
  | fuel + 1, depth, text =>
      match options.skip text with
      | [] => none
      | '[' :: rest =>
          match readNamed? rest with
          | some (negated, after) =>
              if negated && !options.wide then none else readMembers options fuel depth after
          | none => (openSet options rest).bind (readMembers options fuel (depth + 1))
      | ']' :: rest =>
          match depth with
          | 0 => some rest
          | depth + 1 => readMembers options fuel depth rest
      | '&' :: '&' :: rest => readMembers options fuel depth rest
      | '-' :: '-' :: rest => readMembers options fuel depth rest
      | '~' :: '~' :: rest => readMembers options fuel depth rest
      | start => (readMember options start).bind (readMembers options fuel depth)

/-- A set after its opening bracket; the result is the text after it. -/
def readSet (options : Options) (text : List Char) : Option (List Char) :=
  if options.hasCases then
    (openSet options text).bind (readMembers options (text.length + 1) 0)
  else none

end FormRules.Pattern
