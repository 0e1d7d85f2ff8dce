import Pseudocode.Fault

/-!
Reading expressions. From loosest to tightest: `or`, `and`, `not`, comparison, `+` and `-`, then
`*`, `/`, `mod` and `div`, then unary minus; operators of one row group to the left. Parentheses
leave no trace.

Two limits keep expressions small: the operands of `not` and unary minus and the insides of
parentheses nest at most 100 deep, and the expressions of one line share 1024 binary operators.
-/

namespace Pseudocode

def reservedWords : List String :=
  ["output", "input", "if", "then", "else", "end", "loop", "from", "to", "while", "until", "and",
    "or", "not", "mod", "div", "true", "false"]

def isReserved (word : String) : Bool :=
  reservedWords.contains word

def maxNesting : Nat := 100

def maxOperators : Nat := 1024

/-- Where reading stands in a line: the tokens that are left, and the binary operators so far. -/
structure Cursor where
  rest : List Token
  operators : Nat
  deriving DecidableEq, Repr

abbrev Reader (α : Type) := Cursor → Except Complaint (α × Cursor)

namespace Cursor

def ofTokens (tokens : List Token) : Cursor := ⟨tokens, 0⟩

/-- Counts one more binary operator. -/
def countOperator (c : Cursor) : Except Complaint Cursor :=
  if c.operators < maxOperators then .ok { c with operators := c.operators + 1 }
  else .error .tooManyOperators

/-- Succeeds at the end of the line only. -/
def finish (c : Cursor) : Except Complaint Unit :=
  match c.rest with
  | [] => .ok ()
  | token :: _ => .error (.unexpectedToken token)

end Cursor

namespace Expr

def productOp? : Token → Option BinaryOp
  | .symbol .star => some .mul
  | .symbol .slash => some .div
  | .word "mod" => some .mod
  | .word "div" => some .intDiv
  | _ => none

def sumOp? : Token → Option BinaryOp
  | .symbol .plus => some .add
  | .symbol .minus => some .sub
  | _ => none

def comparisonOp? : Token → Option BinaryOp
  | .symbol .eq => some .eq
  | .symbol .notEq => some .notEq
  | .symbol .less => some .less
  | .symbol .lessEq => some .lessEq
  | .symbol .greater => some .greater
  | .symbol .greaterEq => some .greaterEq
  | _ => none

def conjunctionOp? : Token → Option BinaryOp
  | .word "and" => some .and
  | _ => none

def disjunctionOp? : Token → Option BinaryOp
  | .word "or" => some .or
  | _ => none

/-- The readers for what stands one nesting level further in. -/
structure Inner where
  /-- The operand of unary minus. -/
  negated : Reader Expr
  /-- The operand of `not`. -/
  denied : Reader Expr
  /-- The inside of parentheses. -/
  enclosed : Reader Expr

/-- Reads `(operator operand)*` after `left`, grouped to the left. Each pass takes a token, so the
number of tokens bounds the passes. -/
def chainFrom (op? : Token → Option BinaryOp) (operand : Reader Expr) : Nat → Expr → Reader Expr
  | 0, left, c => .ok (left, c)
  | passes + 1, left, c =>
    match c.rest with
    | [] => .ok (left, c)
    | token :: rest =>
      match op? token with
      | none => .ok (left, c)
      | some op => do
        let (right, c) ← operand { c with rest }
        let c ← c.countOperator
        chainFrom op? operand passes (.binary op left right) c

/-- Reads `operand (operator operand)*`. -/
def chain (op? : Token → Option BinaryOp) (operand : Reader Expr) : Reader Expr := fun c => do
  let (left, c) ← operand c
  chainFrom op? operand c.rest.length left c

/-- Reads the inside of parentheses and the closing one. -/
def upToParen (inner : Inner) : Reader Expr := fun c => do
  let (e, c) ← inner.enclosed c
  match c.rest with
  | .symbol .rightParen :: rest => .ok (e, { c with rest })
  | _ => .error .expectedRightParen

def primary (inner : Inner) : Reader Expr := fun c =>
  match c.rest with
  | [] => .error .expectedExpression
  | .number n :: rest => .ok (.number n, { c with rest })
  | .text s :: rest => .ok (.text s, { c with rest })
  | .word "true" :: rest => .ok (.truth true, { c with rest })
  | .word "false" :: rest => .ok (.truth false, { c with rest })
  | .word "input" :: .symbol .leftParen :: rest => do
    let (e, c) ← upToParen inner { c with rest }
    .ok (.input e, c)
  | .word "input" :: _ => .error .expectedInputParen
  | .word w :: rest =>
    if isReserved w then .error (.unexpectedToken (.word w)) else .ok (.var w, { c with rest })
  | .symbol .leftParen :: rest => upToParen inner { c with rest }
  | token :: _ => .error (.unexpectedToken token)

def negation (inner : Inner) : Reader Expr := fun c =>
  match c.rest with
  | .symbol .minus :: rest => do
    let (e, c) ← inner.negated { c with rest }
    .ok (.unary .neg e, c)
  | _ => primary inner c

def product (inner : Inner) : Reader Expr := chain productOp? (negation inner)

def sum (inner : Inner) : Reader Expr := chain sumOp? (product inner)

def comparison (inner : Inner) : Reader Expr := chain comparisonOp? (sum inner)

def denial (inner : Inner) : Reader Expr := fun c =>
  match c.rest with
  | .word "not" :: rest => do
    let (e, c) ← inner.denied { c with rest }
    .ok (.unary .not e, c)
  | _ => comparison inner c

def conjunction (inner : Inner) : Reader Expr := chain conjunctionOp? (denial inner)

def disjunction (inner : Inner) : Reader Expr := chain disjunctionOp? (conjunction inner)

/-- The readers of the level around `inner`. -/
def Inner.around (inner : Inner) : Inner :=
  ⟨negation inner, denial inner, disjunction inner⟩

/-- Beyond the deepest level nothing is read. -/
def Inner.beyond : Inner :=
  let refuse : Reader Expr := fun _ => .error .expressionTooDeep
  ⟨refuse, refuse, refuse⟩

/-- The readers of a level with `room` levels further in. -/
def Inner.withRoom : Nat → Inner
  | 0 => .around .beyond
  | room + 1 => .around (withRoom room)

/-- Reads an expression as far as it goes. -/
def read : Reader Expr :=
  (Inner.withRoom maxNesting).enclosed

/-- Reads an expression that takes the rest of the line. -/
def readAll (c : Cursor) : Except Complaint Expr := do
  let (e, c) ← read c
  c.finish
  return e

end Expr

end Pseudocode
