import Pseudocode.Program.Expression
import Pseudocode.Token.Lexer

/-!
Reading statements. A line holds one statement or one part of a block: `if … then`, `else if …
then`, `else` and `end if`, or a `loop` header and `end loop`. A block runs up to the next line
that starts with `else` or `end`, and blocks nest at most 100 deep.
-/

namespace Pseudocode

/-- The statements of a block, and the lines from the one that ends it on. -/
abbrev BlockReader := List Line → Except Fault (List Statement × List Line)

namespace Line

def fault {α : Type} (line : Line) (complaint : Complaint) : Except Fault α :=
  .error ⟨line.number, .malformed complaint⟩

/-- Adds the number of the line to what is wrong with it. -/
def located {α : Type} (line : Line) : Except Complaint α → Except Fault α
  | .ok a => .ok a
  | .error complaint => line.fault complaint

/-- Whether the line ends the block before it. -/
def endsBlock (line : Line) : Bool :=
  match line.tokens with
  | .word "end" :: _ | .word "else" :: _ => true
  | _ => false

end Line

namespace Statement

/-- Reads `(, expression)*`. -/
def readMore : Nat → Reader (List Expr)
  | 0, c => .ok ([], c)
  | passes + 1, c =>
    match c.rest with
    | .symbol .comma :: rest => do
      let (e, c) ← Expr.read { c with rest }
      let (es, c) ← readMore passes c
      .ok (e :: es, c)
    | _ => .ok ([], c)

/-- Reads the arguments of an output statement. -/
def readArguments (tokens : List Token) : Except Complaint (List Expr) := do
  let (e, c) ← Expr.read (.ofTokens tokens)
  let (es, c) ← readMore c.rest.length c
  c.finish
  return e :: es

/-- Reads what follows `input`: a single name, or a prompt. -/
def readTarget : List Token → Except Complaint InputTarget
  | [] => .error .expectedInputTarget
  | [.word name] =>
    if isReserved name then (Expr.readAll (.ofTokens [.word name])).map .prompt
    else .ok (.var name)
  | tokens => (Expr.readAll (.ofTokens tokens)).map .prompt

/-- Reads a condition and the `then` after it. -/
def readCondition (tokens : List Token) : Except Complaint Expr := do
  let (e, c) ← Expr.read (.ofTokens tokens)
  match c.rest with
  | .word "then" :: rest =>
    Cursor.finish { c with rest }
    return e
  | _ => .error .expectedThen

/-- Reads the bounds of a counting loop. -/
def readBounds (tokens : List Token) : Except Complaint (Expr × Expr) := do
  let (first, c) ← Expr.read (.ofTokens tokens)
  match c.rest with
  | .word "to" :: rest =>
    let last ← Expr.readAll { c with rest }
    return (first, last)
  | _ => .error .expectedTo

/-- Takes the line that ends a block, opened at line `opener`. -/
def readEnd (kind : BlockKind) (opener : Nat) : List Line → Except Fault (List Line)
  | [] => .error ⟨opener, .malformed (.missingEnd kind)⟩
  | line :: rest =>
    if line.tokens == [.word "end", .word kind.keyword] then .ok rest
    else line.fault (.expectedEnd kind)

/-- Reads the `else if` branches and the `else` part of a choice. -/
def readBranches (block : BlockReader) :
    Nat → List Line → Except Fault (List (Expr × List Statement) × List Statement × List Line)
  | 0, lines => .ok ([], [], lines)
  | _ + 1, [] => .ok ([], [], [])
  | passes + 1, line :: rest =>
    match line.tokens with
    | .word "else" :: .word "if" :: tokens => do
      let condition ← line.located (readCondition tokens)
      let (body, rest) ← block rest
      let (branches, otherwise, rest) ← readBranches block passes rest
      return ((condition, body) :: branches, otherwise, rest)
    | [.word "else"] => do
      let (otherwise, rest) ← block rest
      return ([], otherwise, rest)
    | .word "else" :: _ => line.fault .expectedElse
    | _ => .ok ([], [], line :: rest)

def readChoice (block : BlockReader) (line : Line) (tokens : List Token) (rest : List Line) :
    Except Fault (Statement × List Line) := do
  let condition ← line.located (readCondition tokens)
  let (body, rest) ← block rest
  let (branches, otherwise, rest) ← readBranches block rest.length rest
  let rest ← readEnd .choice line.number rest
  return (.choose line.number ((condition, body) :: branches) otherwise, rest)

/-- The header of a loop, up to its body. -/
def readHeader (line : Line) : List Token → Except Complaint (List Statement → Statement)
  | .word "while" :: tokens => do
    let condition ← Expr.readAll (.ofTokens tokens)
    return .iterate line.number condition false
  | .word "until" :: tokens => do
    let condition ← Expr.readAll (.ofTokens tokens)
    return .iterate line.number condition true
  | .word name :: .word "from" :: tokens =>
    if isReserved name then .error .expectedLoopHead
    else do
      let (first, last) ← readBounds tokens
      return .count line.number name first last
  | _ => .error .expectedLoopHead

def readLoop (block : BlockReader) (line : Line) (tokens : List Token) (rest : List Line) :
    Except Fault (Statement × List Line) := do
  let header ← line.located (readHeader line tokens)
  let (body, rest) ← block rest
  let rest ← readEnd .loop line.number rest
  return (header body, rest)

/-- Reads the statement that starts with `line`. Without a reader for the blocks in it, a choice or
a loop is nested too deeply. -/
def read (block? : Option BlockReader) (line : Line) (rest : List Line) :
    Except Fault (Statement × List Line) :=
  match line.tokens with
  | .word "output" :: tokens => do
    let arguments ← line.located (readArguments tokens)
    return (.output line.number arguments, rest)
  | .word "input" :: tokens => do
    let target ← line.located (readTarget tokens)
    return (.input line.number target, rest)
  | .word "if" :: tokens =>
    match block? with
    | some block => readChoice block line tokens rest
    | none => line.fault .blocksTooDeep
  | .word "loop" :: tokens =>
    match block? with
    | some block => readLoop block line tokens rest
    | none => line.fault .blocksTooDeep
  | .word name :: .symbol .eq :: tokens =>
    if isReserved name then line.fault .unrecognizedStatement
    else do
      let value ← line.located (Expr.readAll (.ofTokens tokens))
      return (.assign line.number name value, rest)
  | _ => line.fault .unrecognizedStatement

/-- Reads statements up to the end of the block. Each takes a line, so the number of lines bounds
the passes. -/
def readMany (block? : Option BlockReader) : Nat → BlockReader
  | 0, lines => .ok ([], lines)
  | _ + 1, [] => .ok ([], [])
  | passes + 1, line :: rest =>
    if line.endsBlock then .ok ([], line :: rest)
    else do
      let (statement, rest) ← read block? line rest
      let (statements, rest) ← readMany block? passes rest
      return (statement :: statements, rest)

/-- Reads a block with `room` levels of blocks further in. -/
def readBlock : Nat → BlockReader
  | 0 => fun lines => readMany none lines.length lines
  | room + 1 => fun lines => readMany (some (readBlock room)) lines.length lines

end Statement

/-- The statements of a program. -/
def Program.ofLines (lines : List Line) : Except Fault (List Statement) := do
  let (statements, rest) ← Statement.readBlock maxNesting lines
  match rest with
  | [] => return statements
  | line :: _ => line.fault .unexpectedTerminator

def Program.ofSource (source : String) : Except Fault (List Statement) := do
  Program.ofLines (← Line.ofSource source)

end Pseudocode
