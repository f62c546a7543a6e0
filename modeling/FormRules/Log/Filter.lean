import FormRules.Log
import FormRules.Pattern
import FormRules.Text.Blank
import FormRules.Text.Case
import FormRules.Text.Decimal
import FormRules.Text.Numeric
import FormRules.Text.Split

/-!
Contract: log filters written as lists of directives.

Owns:
- the names and numbers of levels;
- directives, for all events or for those of a part of the program or with a
  field;
- which of several directives decides about an event.

Does not own: where a filter comes from.
-/

namespace FormRules

namespace Level

/-- The names of the thresholds; the first lets nothing through. -/
def named : List (String × Option Level) :=
  [("off", none), ("error", some .error), ("warn", some .warn), ("info", some .info),
   ("debug", some .debug), ("trace", some .trace)]

/-- The threshold with a name, in letters of any case, or with the number of
its place. -/
def thresholdOf? (word : List Char) : Option (Option Level) :=
  match Text.readWord32? word with
  | some number => (named[number.toNat]?).map Prod.snd
  | none =>
      (named.find? fun entry => Text.sameIgnoringCase entry.1 (String.ofList word)).map Prod.snd

end Level

/-- A threshold for some events. -/
structure Directive where
  /-- What the name of the part of the program starts with. -/
  part : String := ""
  /-- A field that the event has. -/
  field : Option String := none
  /-- Only what happens inside a span of time counts, and this program has no
  spans. -/
  spanned : Bool := false
  threshold : Option Level := some .trace
deriving DecidableEq, Repr

namespace Directive

/-- The directive says something about the event. -/
def concerns (directive : Directive) (event : Event) : Bool :=
  !directive.spanned && directive.part.toList.isPrefixOf event.part.name.toList &&
    directive.field.all event.hasField

/-- The right one says at least as much about an event that both concern: its
name is longer, or as long and its field comes no earlier. -/
def yields (left right : Directive) : Bool :=
  left.part.utf8ByteSize < right.part.utf8ByteSize ||
    (left.part.utf8ByteSize == right.part.utf8ByteSize &&
      match left.field, right.field with
      | none, _ => true
      | some _, none => false
      | some one, some other => !decide (other < one))

/-- The one that decides about an event that both concern. -/
def stronger (left right : Directive) : Directive :=
  if left.yields right then right else left

/-! ## Written directives -/

def trim (text : List Char) : List Char :=
  ((text.dropWhile Text.isBlank).reverse.dropWhile Text.isBlank).reverse

/-- A character that a directive without brackets may start with. -/
def isStart (character : Char) : Bool :=
  Text.isAlphanumeric character || ['-', ':', '_'].contains character

/-- A word alone is a threshold for all events, or else it names a part all of
whose events are let through. -/
def ofWord (word : List Char) : Directive :=
  match Level.thresholdOf? word with
  | some threshold => { threshold }
  | none => { part := String.ofList word }

/-- The directive with the threshold after its equals sign; without a word
there, all levels are meant. -/
def withThreshold? (directive : Directive) (word : List Char) : Option Directive :=
  if word.isEmpty then some directive
  else (Level.thresholdOf? word).map fun threshold => { directive with threshold }

/-- The part of a number that starts with the letter e. -/
def isExponent : List Char → Bool
  | [] => true
  | first :: rest =>
      let digits := if rest.head?.any ['+', '-'].contains then rest.tail else rest
      (first == 'e' || first == 'E') && !digits.isEmpty && digits.all Char.isDigit

/-- A number without sign, with digits before or after its point, or a word for
one that is not finite. -/
def isNumeral (text : List Char) : Bool :=
  let whole := text.takeWhile Char.isDigit
  let afterWhole := text.drop whole.length
  let fraction :=
    if afterWhole.head? == some '.' then afterWhole.tail.takeWhile Char.isDigit else []
  let rest :=
    if afterWhole.head? == some '.' then afterWhole.tail.drop fraction.length else afterWhole
  (["inf", "infinity", "nan"].any fun word => Text.sameIgnoringCase word (String.ofList text)) ||
    (!(whole ++ fraction).isEmpty && isExponent rest)

/-- A value to look for is a number or a pattern.  Only a number with a plus
sign is no pattern at the same time. -/
def isValue (text : List Char) : Bool :=
  Pattern.isWellFormed text ||
    match text with
    | '+' :: number => isNumeral number
    | _ => false

/-- A field in braces, which may have a value up to a second equals sign.
Values are looked for in spans only. -/
def withField? (directive : Directive) (written : List Char) : Option Directive :=
  let name := written.takeWhile (· != '=')
  let directive := { directive with field := some (String.ofList name) }
  match written.drop name.length with
  | [] => some directive
  | _ :: rest =>
      if isValue (rest.takeWhile (· != '=')) then some { directive with spanned := true }
      else none

/-- What follows an opening square bracket, up to the closing one: a span, or
a field in braces that a span may stand before.  The position of the text in
the whole piece tells where the field is cut out. -/
def readBrackets (directive : Directive) (piece : List Char) (position : Nat) (text : List Char) :
    Option (Directive × List Char) :=
  let span := text.takeWhile fun character => character != ']' && character != '\x7b'
  match text.drop span.length with
  | ']' :: rest => some ({ directive with spanned := true }, rest)
  | '\x7b' :: rest =>
      let field := rest.takeWhile (· != '\x7d')
      match rest.drop field.length with
      | '\x7d' :: ']' :: rest =>
          if field.isEmpty then none
          else
            let written := (piece.drop (position + span.length + 1)).take field.length
            (({ directive with spanned := !span.isEmpty }).withField? written).map fun directive =>
              (directive, rest)
      | _ => none
  | _ => none

/-- A directive: a word, or a name and a condition in square brackets, of
which one may be missing, with a threshold after an equals sign.

The marks are looked for between the blanks around the piece, but what stands
between them is counted off in the whole piece: one that starts with blanks is
cut too early, and names nothing. -/
def parse? (piece : List Char) : Option Directive :=
  let text := trim piece
  let name := text.takeWhile fun character => character != '=' && character != '['
  let directive : Directive := { part := String.ofList (piece.take name.length) }
  let after (rest : List Char) := piece.drop (text.length - rest.length)
  match text.drop name.length with
  | [] => if name.head?.any isStart then some (ofWord piece) else none
  | '=' :: rest =>
      if name.head?.any isStart then directive.withThreshold? (after rest) else none
  | _ :: rest =>
      if name.head?.all isStart then
        match directive.readBrackets piece (name.length + 1) rest with
        | some (directive, []) => some directive
        | some (directive, '=' :: rest) => directive.withThreshold? (after rest)
        | _ => none
      else none

end Directive

/-- What a log shows. -/
structure Filter where
  directives : List Directive
deriving DecidableEq, Repr

namespace Filter

/-- The filter with one threshold for all events. -/
def ofLevel (level : Level) : Filter :=
  ⟨[{ threshold := some level }]⟩

/-- The filter in a text, if each of its directives can be read.  Without
directives, errors are let through. -/
def ofText? (text : String) : Option Filter :=
  let pieces := (Text.splitBy (· == ',') text.toList).filter fun piece => !piece.isEmpty
  (pieces.mapM Directive.parse?).map fun directives =>
    if directives.isEmpty then ofLevel .error else ⟨directives⟩

/-- An event that no directive concerns is not let through. -/
def admits (filter : Filter) (event : Event) : Bool :=
  match filter.directives.filter fun directive => directive.concerns event with
  | [] => false
  | first :: rest =>
      (rest.foldl Directive.stronger first).threshold.any fun threshold =>
        threshold.admits event.level

/-- The lines of the events that the filter lets through. -/
def lines (filter : Filter) (events : List Event) : List String :=
  (events.filter filter.admits).map Event.line

end Filter

end FormRules
