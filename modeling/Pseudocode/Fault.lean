import Pseudocode.Program
import Pseudocode.Token
import Pseudocode.Value

/-!
What can be wrong with a program, found while it is read or while it runs. A fault names the line
and the cause; the wording is in `message` alone.
-/

namespace Pseudocode

inductive BlockKind where
  | choice
  | loop
  deriving DecidableEq, Repr

def BlockKind.keyword : BlockKind → String
  | choice => "if"
  | loop => "loop"

/-- Faults of form. -/
inductive Complaint where
  | unterminatedText
  | invalidNumber (numeral : String)
  | unexpectedCharacter (c : Char)
  | unexpectedToken (token : Token)
  | unrecognizedStatement
  | expectedInputTarget
  | expectedThen
  | expectedElse
  | expectedTo
  | expectedLoopHead
  | expectedExpression
  | expectedInputParen
  | expectedRightParen
  | expectedEnd (kind : BlockKind)
  | missingEnd (kind : BlockKind)
  | unexpectedTerminator
  | expressionTooDeep
  | blocksTooDeep
  | tooManyOperators
  deriving DecidableEq, Repr

def Complaint.message : Complaint → String
  | unterminatedText => "unterminated string literal"
  | invalidNumber numeral => "invalid number `" ++ numeral ++ "`"
  | unexpectedCharacter c => "unexpected character `" ++ String.singleton c ++ "`"
  | unexpectedToken token => "unexpected " ++ token.description
  | unrecognizedStatement => "unrecognized statement"
  | expectedInputTarget => "expected `input NAME` or `input \"prompt\"`"
  | expectedThen => "expected `then`"
  | expectedElse => "expected `else` or `else if ... then`"
  | expectedTo => "expected `to`"
  | expectedLoopHead => "expected `loop NAME from A to B`, `loop while` or `loop until`"
  | expectedExpression => "expected an expression"
  | expectedInputParen => "expected `(` after `input`"
  | expectedRightParen => "expected `)`"
  | expectedEnd kind => "expected `end " ++ kind.keyword ++ "`"
  | missingEnd kind => "missing `end " ++ kind.keyword ++ "`"
  | unexpectedTerminator => "unexpected block terminator"
  | expressionTooDeep => "expression nested too deeply"
  | blocksTooDeep => "blocks nested too deeply"
  | tooManyOperators => "expression has too many operators"

/-- A value of a kind that its use does not admit. -/
inductive Mismatch where
  | condition (got : Kind)
  | operand (got : Kind)
  | operator (op : BinaryOp) (left right : Kind)
  deriving DecidableEq, Repr

def Mismatch.message : Mismatch → String
  | condition got => "condition must be boolean, got " ++ got.name
  | operand got => "expected a number, got " ++ got.name
  | operator op left right =>
    "cannot apply " ++ op.name ++ " to " ++ left.name ++ " and " ++ right.name

/-- A number that cannot bound a counting loop. -/
inductive BoundFault where
  | fractional
  | outOfRange
  deriving DecidableEq, Repr

def BoundFault.message : BoundFault → String
  | fractional => "is not a whole number"
  | outOfRange => "is out of range"

inductive Cause where
  | malformed (complaint : Complaint)
  | unknownVariable (name : String)
  | mismatch (mismatch : Mismatch)
  | divisionByZero
  | loopBound (bound : Binary64) (fault : BoundFault)
  deriving DecidableEq, Repr

structure Fault where
  line : Nat
  cause : Cause
  deriving DecidableEq, Repr

def Fault.message (fault : Fault) : String :=
  let place := "line " ++ toString fault.line
  match fault.cause with
  | .malformed complaint => "syntax error on " ++ place ++ ": " ++ complaint.message
  | .unknownVariable name => place ++ ": unknown variable `" ++ name ++ "`"
  | .mismatch mismatch => place ++ ": type mismatch: " ++ mismatch.message
  | .divisionByZero => place ++ ": division by zero"
  | .loopBound bound fault =>
    place ++ ": loop bound " ++ Value.numeral bound ++ " " ++ fault.message

end Pseudocode
