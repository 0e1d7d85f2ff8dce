import Pseudocode.Program.Block
import Pseudocode.Proofs.Grammar

/-!
How programs are written. An operand is put into parentheses exactly if its row of the grammar is
looser than the one that stands there, so that neither precedence nor grouping to the left takes it
apart. Each header of a statement and each other part of a block has a line of its own, and a blank
stands between two tokens.

The statements of a program that is written know the lines that they start on: `numberedAll` gives
each the number of the line of its header.
-/

namespace Pseudocode

/-- Whether a text is one word for the lexer. -/
def Token.isWord (word : String) : Bool :=
  match word.toList with
  | [] => false
  | c :: rest => startsWord c && rest.all continuesWord

/-- Whether a token can be written so that the lexer finds it again, when `spell` spells the
numbers. -/
def Token.isLegible (spell : Binary64 → List Char) : Token → Bool
  | number n =>
    !(spell n).isEmpty && (spell n).all Token.isNumeralChar && Decimal.read (spell n) == some n
  | text s => !s.toList.contains '"' && !s.toList.contains '\n'
  | word w => isWord w
  | symbol _ => true

/-- Whether a text can be the name of a variable. -/
def isName (name : String) : Bool :=
  Token.isWord name && !isReserved name

theorem isReserved_of_isName {name : String} (h : isName name = true) :
    isReserved name = false := by
  simpa using (Bool.and_eq_true_iff.mp h).2

theorem isLegible_of_isName {spell : Binary64 → List Char} {name : String}
    (h : isName name = true) : (Token.word name).isLegible spell = true :=
  (Bool.and_eq_true_iff.mp h).1

namespace Expr

/-- The row of the grammar that an expression is of. -/
def level : Expr → Level
  | unary op _ => op.level
  | binary op _ _ => op.level
  | number _ | text _ | truth _ | var _ | input _ => .primary

/-- The tokens of an expression of row `inner` where one of row `outer` is expected. -/
def enclosedIn (outer inner : Level) (tokens : List Token) : List Token :=
  if outer.rank ≤ inner.rank then tokens
  else .symbol .leftParen :: (tokens ++ [.symbol .rightParen])

/-- How deep such an expression is nested, its parentheses included. -/
def nestingIn (outer inner : Level) (nesting : Nat) : Nat :=
  if outer.rank ≤ inner.rank then nesting else nesting + 1

/-- The right operand is of the next row, as operators group to the left. -/
def tokens : Expr → List Token
  | number n => [.number n]
  | text s => [.text s]
  | truth b => [.word (if b then "true" else "false")]
  | var name => [.word name]
  | unary op e => op.token :: enclosedIn op.level e.level e.tokens
  | binary op a b =>
    enclosedIn op.level a.level a.tokens ++
      op.token :: enclosedIn op.level.tighter b.level b.tokens
  | input prompt =>
    .word "input" :: .symbol .leftParen :: (prompt.tokens ++ [.symbol .rightParen])

/-- The most operands of `not` and `-` and insides of parentheses that are open at once. -/
def nesting : Expr → Nat
  | number _ | text _ | truth _ | var _ => 0
  | unary op e => nestingIn op.level e.level e.nesting + 1
  | binary op a b =>
    max (nestingIn op.level a.level a.nesting) (nestingIn op.level.tighter b.level b.nesting)
  | input prompt => prompt.nesting + 1

/-- The number of binary operators. -/
def operators : Expr → Nat
  | number _ | text _ | truth _ | var _ => 0
  | unary _ e => e.operators
  | binary _ a b => a.operators + b.operators + 1
  | input prompt => prompt.operators

/-- The tokens of arguments, with commas between. -/
def argumentTokens : List Expr → List Token
  | [] => []
  | [e] => e.tokens
  | e :: es => e.tokens ++ .symbol .comma :: argumentTokens es

def lineOperators : List Expr → Nat
  | [] => 0
  | e :: es => e.operators + lineOperators es

/-- Whether the expressions of one line keep the limits of the reader. -/
def fitLine (es : List Expr) : Bool :=
  es.all (·.nesting ≤ maxNesting) && lineOperators es ≤ maxOperators

/-- Whether an expression can be written, when `spell` spells the numbers. -/
def isWellFormed (spell : Binary64 → List Char) : Expr → Bool
  | number n => (Token.number n).isLegible spell
  | text s => (Token.text s).isLegible spell
  | truth _ => true
  | var name => isName name
  | unary _ e => e.isWellFormed spell
  | binary _ a b => a.isWellFormed spell && b.isWellFormed spell
  | input prompt => prompt.isWellFormed spell

end Expr

namespace Statement

def endOf (kind : BlockKind) : List Token := [.word "end", .word kind.keyword]

def conditionTokens (condition : Expr) : List Token :=
  .word "if" :: (condition.tokens ++ [.word "then"])

mutual

/-- The lines of a statement. -/
def lines : Statement → List (List Token)
  | output _ arguments => [.word "output" :: Expr.argumentTokens arguments]
  | input _ (.var name) => [[.word "input", .word name]]
  | input _ (.prompt prompt) =>
    [.word "input" :: .symbol .leftParen :: (prompt.tokens ++ [.symbol .rightParen])]
  | assign _ name value => [.word name :: .symbol .eq :: value.tokens]
  | choose _ branches otherwise =>
    branchLines [] branches ++
      ((if otherwise.isEmpty then [] else [.word "else"] :: linesAll otherwise) ++ [endOf .choice])
  | count _ name first last body =>
    (.word "loop" :: .word name :: .word "from" :: (first.tokens ++ .word "to" :: last.tokens)) ::
      (linesAll body ++ [endOf .loop])
  | iterate _ condition stopAt body =>
    (.word "loop" :: .word (if stopAt then "until" else "while") :: condition.tokens) ::
      (linesAll body ++ [endOf .loop])

def linesAll : List Statement → List (List Token)
  | [] => []
  | statement :: statements => lines statement ++ linesAll statements

/-- The lines of branches. Each but the first one starts with `else`. -/
def branchLines (opener : List Token) : List (Expr × List Statement) → List (List Token)
  | [] => []
  | (condition, body) :: branches =>
    (opener ++ conditionTokens condition) ::
      (linesAll body ++ branchLines [.word "else"] branches)

end

mutual

/-- The statement, when its header is on line `n`. -/
def numbered (n : Nat) : Statement → Statement
  | output _ arguments => output n arguments
  | input _ target => input n target
  | assign _ name value => assign n name value
  | choose _ branches otherwise =>
    choose n (numberedBranches n branches)
      (numberedAll (n + (branchLines [] branches).length + 1) otherwise)
  | count _ name first last body => count n name first last (numberedAll (n + 1) body)
  | iterate _ condition stopAt body => iterate n condition stopAt (numberedAll (n + 1) body)

def numberedAll (n : Nat) : List Statement → List Statement
  | [] => []
  | statement :: statements =>
    numbered n statement :: numberedAll (n + (lines statement).length) statements

def numberedBranches (n : Nat) : List (Expr × List Statement) → List (Expr × List Statement)
  | [] => []
  | (condition, body) :: branches =>
    (condition, numberedAll (n + 1) body) ::
      numberedBranches (n + 1 + (linesAll body).length) branches

end

section

variable (spell : Binary64 → List Char)

mutual

/-- Whether a statement can be written, when `spell` spells the numbers. -/
def isWellFormed : Statement → Bool
  | output _ arguments => !arguments.isEmpty && arguments.all (Expr.isWellFormed spell)
  | input _ (.var name) => isName name
  | input _ (.prompt prompt) => prompt.isWellFormed spell
  | assign _ name value => isName name && value.isWellFormed spell
  | choose _ branches otherwise =>
    !branches.isEmpty && areBranchesWellFormed branches && areWellFormed otherwise
  | count _ name first last body =>
    isName name && first.isWellFormed spell && last.isWellFormed spell && areWellFormed body
  | iterate _ condition _ body => condition.isWellFormed spell && areWellFormed body

def areWellFormed : List Statement → Bool
  | [] => true
  | statement :: statements => isWellFormed statement && areWellFormed statements

def areBranchesWellFormed : List (Expr × List Statement) → Bool
  | [] => true
  | (condition, body) :: branches =>
    condition.isWellFormed spell && areWellFormed body && areBranchesWellFormed branches

end

end

mutual

/-- Whether a statement keeps the limits of the reader, with `room` levels of blocks. -/
def fits : Statement → Nat → Bool
  | output _ arguments, _ => Expr.fitLine arguments
  | input _ (.var _), _ => true
  | input _ (.prompt prompt), _ =>
    prompt.nesting + 1 ≤ maxNesting && prompt.operators ≤ maxOperators
  | assign _ _ value, _ => Expr.fitLine [value]
  | choose .., 0 | count .., 0 | iterate .., 0 => false
  | choose _ branches otherwise, room + 1 => branchesFit branches room && allFit otherwise room
  | count _ _ first last body, room + 1 => Expr.fitLine [first, last] && allFit body room
  | iterate _ condition _ body, room + 1 => Expr.fitLine [condition] && allFit body room

def allFit : List Statement → Nat → Bool
  | [], _ => true
  | statement :: statements, room => fits statement room && allFit statements room

def branchesFit : List (Expr × List Statement) → Nat → Bool
  | [], _ => true
  | (condition, body) :: branches, room =>
    Expr.fitLine [condition] && allFit body room && branchesFit branches room

end

end Statement

/-! ### Characters -/

def Symbol.spelling : Symbol → List Char
  | plus => ['+']
  | minus => ['-']
  | star => ['*']
  | slash => ['/']
  | leftParen => ['(']
  | rightParen => [')']
  | comma => [',']
  | eq => ['=']
  | notEq => ['!', '=']
  | less => ['<']
  | lessEq => ['<', '=']
  | greater => ['>']
  | greaterEq => ['>', '=']

namespace Token

variable (spell : Binary64 → List Char)

def spelling : Token → List Char
  | number n => spell n
  | text s => '"' :: (s.toList ++ ['"'])
  | word w => w.toList
  | symbol s => s.spelling

/-- The tokens of a line with blanks between them. -/
def layout : List Token → List Char
  | [] => []
  | [token] => token.spelling spell
  | token :: tokens => token.spelling spell ++ ' ' :: layout tokens

end Token

/-- The text of a program. -/
def Program.text (spell : Binary64 → List Char) (program : List Statement) : String :=
  String.ofList ((Statement.linesAll program).flatMap fun line => Token.layout spell line ++ ['\n'])

end Pseudocode
