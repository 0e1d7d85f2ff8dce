import Pseudocode.Binary64.Basic

/-!
Programs: statements and the expressions in them. A statement knows the line that it starts on.
-/

namespace Pseudocode

inductive UnaryOp where
  | neg
  | not
  deriving DecidableEq, Repr

inductive BinaryOp where
  | add
  | sub
  | mul
  | div
  | mod
  | intDiv
  | eq
  | notEq
  | less
  | lessEq
  | greater
  | greaterEq
  | and
  | or
  deriving DecidableEq, Repr

/-- How a message names an operator. -/
def BinaryOp.name : BinaryOp → String
  | add => "Add"
  | sub => "Sub"
  | mul => "Mul"
  | div => "Div"
  | mod => "Mod"
  | intDiv => "IntDiv"
  | eq => "Eq"
  | notEq => "NotEq"
  | less => "Less"
  | lessEq => "LessEq"
  | greater => "Greater"
  | greaterEq => "GreaterEq"
  | and => "And"
  | or => "Or"

inductive Expr where
  | number (n : Binary64)
  | text (s : String)
  | truth (b : Bool)
  | var (name : String)
  | unary (op : UnaryOp) (operand : Expr)
  | binary (op : BinaryOp) (left right : Expr)
  /-- Asks for a value, with a prompt. -/
  | input (prompt : Expr)
  deriving DecidableEq, Repr

/-- What an input statement does with the answer: keep it in a variable, which then is also the
prompt, or drop it. -/
inductive InputTarget where
  | var (name : String)
  | prompt (prompt : Expr)
  deriving DecidableEq, Repr

inductive Statement where
  | output (line : Nat) (arguments : List Expr)
  | input (line : Nat) (target : InputTarget)
  | assign (line : Nat) (name : String) (value : Expr)
  /-- Runs the body of the first branch whose condition holds, or else `otherwise`. -/
  | choose (line : Nat) (branches : List (Expr × List Statement)) (otherwise : List Statement)
  | count (line : Nat) (name : String) (first last : Expr) (body : List Statement)
  /-- Runs the body until the condition, tested before each pass, has the value `stopAt`. -/
  | iterate (line : Nat) (condition : Expr) (stopAt : Bool) (body : List Statement)
  deriving Repr

namespace Statement

def line : Statement → Nat
  | output line _ | input line _ | assign line _ _ | choose line _ _ | count line _ _ _ _
  | iterate line _ _ _ => line

end Statement

end Pseudocode
