import Pseudocode.Binary64.Arithmetic
import Pseudocode.Binary64.Decimal
import Pseudocode.Binary64.Numeral
import Pseudocode.Text.Blank

/-!
Values of programs: numbers, texts and truth values, and how an answer becomes a value.
-/

namespace Pseudocode

inductive Value where
  | number (n : Binary64)
  | text (s : String)
  | truth (b : Bool)
  deriving DecidableEq, Repr

inductive Kind where
  | number
  | text
  | boolean
  deriving DecidableEq, Repr

def Kind.name : Kind → String
  | number => "number"
  | text => "text"
  | boolean => "boolean"

namespace Value

def kind : Value → Kind
  | number _ => .number
  | text _ => .text
  | truth _ => .boolean

/-- From here on whole numbers are written by their shortest numeral, like all others. -/
def plainLimit : Nat := 1000000000000000

/-- Whole numbers are written as integers, without a sign for zero. -/
def numeral (n : Binary64) : String :=
  match n.toInt? with
  | some i => if i.natAbs < plainLimit then toString i else n.positional 0
  | none => n.positional 0

/-- The text that an output statement writes. -/
def display : Value → String
  | number n => numeral n
  | text s => s
  | truth b => if b then "true" else "false"

/-- An answer without its outer blanks: a number if it is a finite numeral, and else a text. -/
def ofAnswer (answer : String) : Value :=
  let trimmed := Text.trimBlank answer.toList
  match Decimal.read trimmed with
  | some n => if n.isFinite then number n else text (String.ofList trimmed)
  | none => text (String.ofList trimmed)

/-- Equality as programs see it: numbers by value, and values of two kinds never equal. -/
def equals : Value → Value → Bool
  | number a, number b => a.eq b
  | text a, text b => a == b
  | truth a, truth b => a == b
  | _, _ => false

end Value

end Pseudocode
