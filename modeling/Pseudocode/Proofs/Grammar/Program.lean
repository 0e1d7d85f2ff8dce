import Pseudocode.Proofs.Grammar.Reading
import Pseudocode.Proofs.Printing.Block
import Pseudocode.Proofs.Printing.Numbering

/-!
The grammar of programs, line by line, apart from the reader and its passes. A statement takes one
line, or the lines of a block from its header to its end; a choice has further branches between. All
that is read is written so, and what is known of every program that is accepted is proved by cases
on how it is written.
-/

namespace Pseudocode

theorem Line.located_eq_ok {α : Type} {line : Line} {read : Except Complaint α} {a : α}
    (h : line.located read = .ok a) : read = .ok a := by
  cases read with
  | ok => exact congrArg _ (Except.ok.inj h)
  | error => cases h

/-- A name is no reserved word. -/
theorem ne_of_free {name word : String} (free : isReserved name = false)
    (reserved : isReserved word = true) : name ≠ word := by
  rintro rfl
  cases free.symm.trans reserved

namespace Statement

/-- What some lines of a program are together. -/
inductive Part where
  | one (statement : Statement)
  | many (statements : List Statement)
  /-- The further branches of a choice, and its `else` part. -/
  | branches (others : List (Expr × List Statement)) (otherwise : List Statement)

/-- The statements of a part, each followed by those in it. -/
def Part.withInner : Part → List Statement
  | one statement => statement.withInner
  | many statements => withInnerAll statements
  | branches others otherwise => innerOfBranches others ++ withInnerAll otherwise

variable {room : Nat} {line closer : Line} {lines rest last : List Line} {tokens : List Token}
  {condition : Expr} {statement : Statement} {statements body otherwise : List Statement}
  {branches : List (Expr × List Statement)}

/-- Whether the lines up to `rest` are a part of a program, when `room` levels of blocks can be
opened. -/
inductive Written : Nat → List Line → List Line → Part → Prop
  | output {room : Nat} {line : Line} {tokens : List Token} {arguments : List Expr}
    (starts : line.tokens = .word "output" :: tokens)
    (read : readArguments tokens = .ok arguments) (rest : List Line) :
    Written room (line :: rest) rest (.one (.output line.number arguments))
  | input {room : Nat} {line : Line} {tokens : List Token} {target : InputTarget}
    (starts : line.tokens = .word "input" :: tokens)
    (read : readTarget tokens = .ok target) (rest : List Line) :
    Written room (line :: rest) rest (.one (.input line.number target))
  | assign {room : Nat} {line : Line} {tokens : List Token} {name : String} {value : Expr}
    (starts : line.tokens = .word name :: .symbol .eq :: tokens)
    (free : isReserved name = false)
    (read : Expr.readAll (.ofTokens tokens) = .ok value) (rest : List Line) :
    Written room (line :: rest) rest (.one (.assign line.number name value))
  | choose {room : Nat} {line closer : Line} {lines between rest : List Line}
    {tokens : List Token} {condition : Expr} {body otherwise : List Statement}
    {branches : List (Expr × List Statement)}
    (starts : line.tokens = .word "if" :: tokens)
    (read : readCondition tokens = .ok condition)
    (inside : Written room lines between (.many body))
    (others : Written room between (closer :: rest) (.branches branches otherwise))
    (ends : closer.tokens = [.word "end", .word "if"]) :
    Written (room + 1) (line :: lines) rest
      (.one (.choose line.number ((condition, body) :: branches) otherwise))
  | loop {room : Nat} {line closer : Line} {lines rest : List Line} {tokens : List Token}
    {header : List Statement → Statement} {body : List Statement}
    (starts : line.tokens = .word "loop" :: tokens)
    (read : readHeader line tokens = .ok header)
    (inside : Written room lines (closer :: rest) (.many body))
    (ends : closer.tokens = [.word "end", .word "loop"]) :
    Written (room + 1) (line :: lines) rest (.one (header body))
  | nil (room : Nat) (lines : List Line) : Written room lines lines (.many [])
  | cons {room : Nat} {lines between rest : List Line} {statement : Statement}
    {statements : List Statement}
    (first : Written room lines between (.one statement))
    (others : Written room between rest (.many statements)) :
    Written room lines rest (.many (statement :: statements))
  | stop (room : Nat) (lines : List Line) : Written room lines lines (.branches [] [])
  | branch {room : Nat} {line : Line} {lines between rest : List Line} {tokens : List Token}
    {condition : Expr} {body otherwise : List Statement}
    {branches : List (Expr × List Statement)}
    (starts : line.tokens = .word "else" :: .word "if" :: tokens)
    (read : readCondition tokens = .ok condition)
    (inside : Written room lines between (.many body))
    (others : Written room between rest (.branches branches otherwise)) :
    Written room (line :: lines) rest (.branches ((condition, body) :: branches) otherwise)
  | otherwise {room : Nat} {line : Line} {lines rest : List Line} {statements : List Statement}
    (starts : line.tokens = [.word "else"])
    (inside : Written room lines rest (.many statements)) :
    Written room (line :: lines) rest (.branches [] statements)

/-- Whether all blocks that a reader gives are written so. -/
def ReadsWritten (room : Nat) (block : BlockReader) : Prop :=
  ∀ {lines statements rest}, block lines = .ok (statements, rest) →
    Written room lines rest (.many statements)

theorem exists_of_readEnd {kind : BlockKind} {opener : Nat}
    (h : readEnd kind opener lines = .ok rest) :
    ∃ closer, lines = closer :: rest ∧ closer.tokens = [.word "end", .word kind.keyword] := by
  cases lines with
  | nil => cases h
  | cons closer lines =>
      rw [readEnd] at h
      split at h
      · rename_i htokens
        cases h
        exact ⟨closer, rfl, beq_iff_eq.mp htokens⟩
      · cases h

section

variable {block : BlockReader} (blocks : ReadsWritten room block)

include blocks

theorem written_readBranches {passes : Nat}
    (h : readBranches block passes lines = .ok (branches, otherwise, rest)) :
    Written room lines rest (.branches branches otherwise) := by
  induction passes generalizing lines branches otherwise with
  | zero =>
      cases h
      exact .stop room _
  | succ passes ih =>
      cases lines with
      | nil =>
          cases h
          exact .stop room _
      | cons line others =>
          rw [readBranches] at h
          split at h
          · rename_i tokens htokens
            obtain ⟨condition, hcondition, h⟩ := bind_eq_ok.mp h
            obtain ⟨⟨body, between⟩, hbody, h⟩ := bind_eq_ok.mp h
            obtain ⟨⟨branches, otherwise, rest⟩, hbranches, h⟩ := bind_eq_ok.mp h
            cases h
            exact .branch htokens (Line.located_eq_ok hcondition) (blocks hbody) (ih hbranches)
          · rename_i htokens
            obtain ⟨⟨otherwise, rest⟩, hotherwise, h⟩ := bind_eq_ok.mp h
            cases h
            exact .otherwise htokens (blocks hotherwise)
          · cases h
          · cases h
            exact .stop room _

theorem written_readChoice (htokens : line.tokens = .word "if" :: tokens)
    (h : readChoice block line tokens rest = .ok (statement, last)) :
    Written (room + 1) (line :: rest) last (.one statement) := by
  obtain ⟨condition, hcondition, h⟩ := bind_eq_ok.mp h
  obtain ⟨⟨body, between⟩, hbody, h⟩ := bind_eq_ok.mp h
  obtain ⟨⟨branches, otherwise, ending⟩, hbranches, h⟩ := bind_eq_ok.mp h
  obtain ⟨rest, hend, h⟩ := bind_eq_ok.mp h
  cases h
  obtain ⟨closer, rfl, hcloser⟩ := exists_of_readEnd hend
  exact .choose htokens (Line.located_eq_ok hcondition) (blocks hbody)
    (written_readBranches blocks hbranches) hcloser

theorem written_readLoop (htokens : line.tokens = .word "loop" :: tokens)
    (h : readLoop block line tokens rest = .ok (statement, last)) :
    Written (room + 1) (line :: rest) last (.one statement) := by
  obtain ⟨header, hheader, h⟩ := bind_eq_ok.mp h
  obtain ⟨⟨body, ending⟩, hbody, h⟩ := bind_eq_ok.mp h
  obtain ⟨rest, hend, h⟩ := bind_eq_ok.mp h
  cases h
  obtain ⟨closer, rfl, hcloser⟩ := exists_of_readEnd hend
  exact .loop htokens (Line.located_eq_ok hheader) (blocks hbody) hcloser

end

section

variable (blocks : ∀ inner, room = inner + 1 → ReadsWritten inner (readBlock inner))

include blocks

theorem written_read (h : read (blockWithin room) line rest = .ok (statement, last)) :
    Written room (line :: rest) last (.one statement) := by
  unfold read at h
  split at h
  · rename_i tokens htokens
    obtain ⟨arguments, hread, h⟩ := bind_eq_ok.mp h
    cases h
    exact .output htokens (Line.located_eq_ok hread) rest
  · rename_i tokens htokens
    obtain ⟨target, hread, h⟩ := bind_eq_ok.mp h
    cases h
    exact .input htokens (Line.located_eq_ok hread) rest
  · rename_i tokens htokens
    cases room with
    | zero => cases h
    | succ room => exact written_readChoice (blocks room rfl) htokens h
  · rename_i tokens htokens
    cases room with
    | zero => cases h
    | succ room => exact written_readLoop (blocks room rfl) htokens h
  · rename_i name tokens _ _ _ _ htokens
    split at h
    · cases h
    · rename_i hfree
      obtain ⟨value, hread, h⟩ := bind_eq_ok.mp h
      cases h
      exact .assign htokens (Bool.eq_false_iff.mpr hfree) (Line.located_eq_ok hread) rest
  · cases h

theorem written_readMany {passes : Nat}
    (h : readMany (blockWithin room) passes lines = .ok (statements, rest)) :
    Written room lines rest (.many statements) := by
  induction passes generalizing lines statements with
  | zero =>
      cases h
      exact .nil room _
  | succ passes ih =>
      cases lines with
      | nil =>
          cases h
          exact .nil room _
      | cons line others =>
          rw [readMany] at h
          split at h
          · cases h
            exact .nil room _
          · obtain ⟨⟨statement, between⟩, hread, h⟩ := bind_eq_ok.mp h
            obtain ⟨⟨statements, rest⟩, hmany, h⟩ := bind_eq_ok.mp h
            cases h
            exact .cons (written_read blocks hread) (ih hmany)

end

/-- What is read as a block is written so within the levels that it is given. -/
theorem written_readBlock (room : Nat) : ReadsWritten room (readBlock room) := by
  induction room with
  | zero =>
      intro lines statements rest h
      rw [readBlock_eq] at h
      exact written_readMany (fun inner hinner => nomatch hinner) h
  | succ room ih =>
      intro lines statements rest h
      rw [readBlock_eq] at h
      refine written_readMany (fun inner hinner => ?_) h
      obtain rfl := Nat.succ.inj hinner
      exact ih

end Statement

/-- A program is written in all of its lines. -/
theorem Program.written_of_ofLines {lines : List Line} {program : List Statement}
    (h : ofLines lines = .ok program) : Statement.Written maxNesting lines [] (.many program) := by
  obtain ⟨⟨statements, rest⟩, hread, h⟩ := bind_eq_ok.mp h
  cases rest with
  | nil =>
      cases h
      exact Statement.written_readBlock maxNesting hread
  | cons line rest => cases h

end Pseudocode
