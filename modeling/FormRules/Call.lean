import FormRules.Text.Case
import FormRules.Text.Decimal

/-!
Contract: one call of a schema-builder method and the readings of its
arguments.

Owns:
- arguments as far as they are told apart;
- positional, named and flag readings.

Does not own: chains of calls, or which methods mean what.
-/

namespace FormRules

open FormRules.Text

inductive Argument where
  | text (value : String)
  | number (digits : String)
  | identifier (name : String)
  | named (name : String) (value : Argument)
  /-- Anything that is not a single literal. -/
  | expression
deriving DecidableEq, Repr

/-- A numeral without a fraction, if it fits in 32 bits. -/
def Argument.word32? : Argument → Option UInt32
  | .number digits => readWord32? digits.toList
  | _ => none

structure Call where
  name : String
  arguments : List Argument
  /-- The line of the method name. -/
  line : Nat
deriving DecidableEq, Repr

namespace Call

/-- Method names do not depend on the case of ASCII letters. -/
def isNamed (call : Call) (name : String) : Bool :=
  sameIgnoringCase call.name name

def text? (call : Call) (position : Nat) : Option String :=
  match call.arguments[position]? with
  | some (.text value) => some value
  | _ => none

def word32At? (call : Call) (position : Nat) : Option UInt32 :=
  call.arguments[position]?.bind Argument.word32?

/-- The value of the first argument with the given name. -/
def named? (call : Call) (name : String) : Option Argument :=
  call.arguments.findSome? fun argument =>
    match argument with
    | .named label value => if sameIgnoringCase label name then some value else none
    | _ => none

/-- A number given by name, or else by position. -/
def word32? (call : Call) (position : Nat) (name : String) : Option UInt32 :=
  ((call.named? name).bind Argument.word32?).or (call.word32At? position)

/-- A switch is on unless its first argument is the word false. -/
def flag (call : Call) : Bool :=
  match call.arguments.head? with
  | some (.identifier word) => !sameIgnoringCase word "false"
  | _ => true

end Call

end FormRules
