import FormRules.Pattern.Set
import FormRules.Text.Numeric

/-!
Contract: search patterns, as far as being well formed.

Owns:
- groups with their names and flags, repetition and alternatives;
- `isWellFormed`, which says of a text that it is a pattern.

Does not own: what a pattern matches.
-/

namespace FormRules.Pattern

open FormRules.Text

/-- Where the reader of a pattern stands. -/
structure Progress where
  options : Options := {}
  /-- The options to return to, for each group that is open. -/
  outer : List Options := []
  /-- What has just been read can be repeated. -/
  repeatable : Bool := false
  /-- The names of the groups so far. -/
  names : List String := []

namespace Progress

/-- A group starts. -/
def enter (progress : Progress) (options : Options) : Progress :=
  { progress with options, outer := progress.options :: progress.outer, repeatable := false }

/-- Something that can be repeated has been read. -/
def passed (progress : Progress) : Progress :=
  { progress with repeatable := true }

end Progress

/-! ## Groups -/

/-- A name of a group starts with a letter or an underscore. -/
def isGroupName : List Char → Bool
  | [] => false
  | first :: rest =>
      isWordStart first && rest.all fun character =>
        isWordCharacter character || ['.', '[', ']'].contains character

/-- The name of a group up to its closing angle bracket; every name is new. -/
def readGroupName (progress : Progress) (text : List Char) : Option (Progress × List Char) :=
  let name := text.takeWhile (· != '>')
  match text.drop name.length with
  | '>' :: rest =>
      if isGroupName name && !progress.names.contains (String.ofList name) then
        some ({ progress.enter progress.options with
          names := String.ofList name :: progress.names }, rest)
      else none
  | _ => none

/-- The letters of flags, and the sign before those that are switched off. -/
def flagSigns : List Char := ['i', 'm', 's', 'U', 'u', 'R', 'x', '-']

/-- Each flag is given once, and the minus sign has flags after it. -/
def areFlags (signs : List Char) : Bool :=
  signs.all flagSigns.contains && decide signs.Nodup && signs.getLast? != some '-'

/-- Whether a flag is on after some signs. -/
def isOn (signs : List Char) (flag : Char) (before : Bool) : Bool :=
  if (signs.takeWhile (· != '-')).contains flag then true
  else if signs.contains flag then false
  else before

/-- The options after some signs. -/
def Options.switch (options : Options) (signs : List Char) : Options where
  caseless := isOn signs 'i' options.caseless
  wide := isOn signs 'u' options.wide
  spaced := isOn signs 'x' options.spaced

/-- Flags up to a colon, for a group that starts there, or up to a closing
parenthesis, for what follows in the same group. -/
def readFlags (progress : Progress) (text : List Char) : Option (Progress × List Char) :=
  let signs := text.takeWhile fun character => character != ':' && character != ')'
  let options := progress.options.switch signs
  if areFlags signs then
    match text.drop signs.length with
    | ':' :: rest => some (progress.enter options, rest)
    | ')' :: rest =>
        if signs.isEmpty then none
        else some ({ progress with options, repeatable := false }, rest)
    | _ => none
  else none

/-- What follows an opening parenthesis. -/
def openGroup (progress : Progress) (text : List Char) : Option (Progress × List Char) :=
  match progress.options.skip text with
  | '?' :: 'P' :: '<' :: rest => readGroupName progress rest
  | '?' :: '<' :: rest => readGroupName progress rest
  | '?' :: rest => readFlags progress rest
  | start => some (progress.enter progress.options, start)

/-! ## Whole patterns -/

/-- A sign of repetition that needs no braces. -/
def isRepetition (character : Char) : Bool :=
  character == '?' || character == '*' || character == '+'

/-- A question mark after a sign of repetition belongs to it. -/
def dropReluctance : List Char → List Char
  | '?' :: rest => rest
  | text => text

/-- Read a pattern to its end, at most as many parts as the fuel says.  A
pattern holds no closing brace, so an opening one is never closed. -/
def readsToEnd : Nat → Progress → List Char → Bool
  | 0, _, _ => false
  | fuel + 1, progress, text =>
      match progress.options.skip text with
      | [] => progress.outer.isEmpty
      | '\x7b' :: _ => false
      | '(' :: rest =>
          match openGroup progress rest with
          | some (progress, rest) => readsToEnd fuel progress rest
          | none => false
      | ')' :: rest =>
          match progress.outer with
          | [] => false
          | options :: outer => readsToEnd fuel { progress.passed with options, outer } rest
      | '|' :: rest => readsToEnd fuel { progress with repeatable := false } rest
      | '[' :: rest =>
          match readSet progress.options rest with
          | some rest => readsToEnd fuel progress.passed rest
          | none => false
      | first :: rest =>
          if isRepetition first then
            progress.repeatable && readsToEnd fuel progress (dropReluctance rest)
          else
            match readPiece progress.options (first :: rest) with
            | some (piece, rest) =>
                progress.options.admits piece && readsToEnd fuel progress.passed rest
            | none => false

/-- Each part takes at least one character. -/
def isWellFormed (text : List Char) : Bool :=
  readsToEnd (text.length + 1) {} text

end FormRules.Pattern
