import Pseudocode.Dialogue
import Pseudocode.Fault
import Pseudocode.Scope

/-!
The value of an expression. Evaluation may ask for answers but changes no variable, and it stops at
the first cause of a fault; the statement adds the line.
-/

namespace Pseudocode

/-- A dialogue that can fail. -/
abbrev Evaluation := ExceptT Cause Dialogue

namespace Evaluation

def ask (prompt : String) : Evaluation String :=
  ExceptT.lift (Dialogue.question prompt)

def ofExcept {α : Type} (result : Except Cause α) : Evaluation α :=
  ExceptT.mk (pure result)

end Evaluation

namespace Value

/-- The value of a condition. -/
def asCondition : Value → Except Cause Bool
  | truth b => .ok b
  | v => .error (.mismatch (.condition v.kind))

def asNumber : Value → Except Cause Binary64
  | number n => .ok n
  | v => .error (.mismatch (.operand v.kind))

/-- Loop bounds stay below the first whole number whose successor is not a `Binary64`. -/
def boundLimit : Nat := 9007199254740992

/-- The whole number that bounds a counting loop. -/
def asBound (v : Value) : Except Cause Int := do
  let n ← v.asNumber
  match n.toInt? with
  | none => .error (.loopBound n .fractional)
  | some i => if i.natAbs < boundLimit then .ok i else .error (.loopBound n .outOfRange)

end Value

namespace BinaryOp

/-- Arithmetic that is defined on all pairs of numbers. -/
def onNumbers : BinaryOp → Binary64 → Binary64 → Option Value
  | add, a, b => some (.number (a + b))
  | sub, a, b => some (.number (a - b))
  | mul, a, b => some (.number (a * b))
  | div, a, b => some (.number (a / b))
  | mod, a, b => some (.number (a % b))
  | intDiv, a, b => some (.number (a / b).floor)
  | less, a, b => some (.truth (a.lt b))
  | lessEq, a, b => some (.truth (a.le b))
  | greater, a, b => some (.truth (b.lt a))
  | greaterEq, a, b => some (.truth (b.le a))
  | _, _, _ => none

/-- Texts are ordered by their characters. -/
def onTexts : BinaryOp → String → String → Option Value
  | less, a, b => some (.truth (a < b))
  | lessEq, a, b => some (.truth (!decide (b < a)))
  | greater, a, b => some (.truth (b < a))
  | greaterEq, a, b => some (.truth (!decide (a < b)))
  | _, _, _ => none

def dividesBy : BinaryOp → Bool
  | div | mod | intDiv => true
  | _ => false

/-- The value of an operator whose operands are both evaluated first. A sum with a text joins what
the two operands display, and equality is defined on all values. -/
def apply (op : BinaryOp) (left right : Value) : Except Cause Value :=
  let mismatch := Cause.mismatch (.operator op left.kind right.kind)
  match op, left, right with
  | .eq, a, b => .ok (.truth (a.equals b))
  | .notEq, a, b => .ok (.truth (!a.equals b))
  | op, .number a, .number b =>
    if op.dividesBy && b.isZero then .error .divisionByZero
    else (op.onNumbers a b).elim (.error mismatch) .ok
  | .add, .text a, b => .ok (.text (a ++ b.display))
  | .add, a, .text b => .ok (.text (a.display ++ b))
  | op, .text a, .text b => (op.onTexts a b).elim (.error mismatch) .ok
  | _, _, _ => .error mismatch

end BinaryOp

namespace Expr

def eval (scope : Scope) : Expr → Evaluation Value
  | number n => pure (.number n)
  | text s => pure (.text s)
  | truth b => pure (.truth b)
  | var name =>
    match scope.get? name with
    | some v => pure v
    | none => throw (.unknownVariable name)
  | input prompt => do
    let answer ← Evaluation.ask (← prompt.eval scope).display
    return Value.ofAnswer answer
  | unary .neg e => do
    let n ← Evaluation.ofExcept (← e.eval scope).asNumber
    return .number (-n)
  | unary .not e => do
    let b ← Evaluation.ofExcept (← e.eval scope).asCondition
    return .truth (!b)
  | binary .and a b => do
    if ← Evaluation.ofExcept (← a.eval scope).asCondition then
      return .truth (← Evaluation.ofExcept (← b.eval scope).asCondition)
    else return .truth false
  | binary .or a b => do
    if ← Evaluation.ofExcept (← a.eval scope).asCondition then return .truth true
    else return .truth (← Evaluation.ofExcept (← b.eval scope).asCondition)
  | binary op a b => do
    let left ← a.eval scope
    let right ← b.eval scope
    Evaluation.ofExcept (op.apply left right)

def condition (scope : Scope) (e : Expr) : Evaluation Bool := do
  Evaluation.ofExcept (← e.eval scope).asCondition

def bound (scope : Scope) (e : Expr) : Evaluation Int := do
  Evaluation.ofExcept (← e.eval scope).asBound

/-- The line that an output statement writes: what its arguments display, with spaces between. -/
def line (scope : Scope) : List Expr → Evaluation String
  | [] => pure ""
  | [e] => do return (← e.eval scope).display
  | e :: es => do
    let text := (← e.eval scope).display
    return text ++ " " ++ (← line scope es)

end Expr

end Pseudocode
