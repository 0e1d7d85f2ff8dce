import Pseudocode.Proofs.Outline.Blame
import Pseudocode.Proofs.Printing.Header

/-!
The outline of a program: the blocks that are open after some lines. A line can be judged by the
outline before it alone, whatever lines come after it, and `Line.enter` is that judgment. `check`
judges line after line, and at the end it misses the end of the innermost block that is still open.
Whatever is open can be closed, a line for each block.
-/

namespace Pseudocode

/-- A block that is open. -/
structure OpenBlock where
  kind : BlockKind
  /-- The number of the line that opened it. -/
  line : Nat
  /-- Whether another branch may follow. -/
  branching : Bool
  deriving DecidableEq, Repr

/-- The blocks that are open, the innermost first. -/
abbrev Outline := List OpenBlock

namespace Line

/-- The line ends a block. -/
def endBlock (line : Line) : Outline → Except Fault Outline
  | [] => line.fault .unexpectedTerminator
  | block :: outer =>
    if line.tokens == Statement.endOf block.kind then .ok outer
    else line.fault (.expectedEnd block.kind)

/-- The line, which has `tokens` after an `else`, begins another branch. -/
def beginBranch (line : Line) (tokens : List Token) : Outline → Except Fault Outline
  | [] => line.fault .unexpectedTerminator
  | block :: outer =>
    if block.branching then
      match tokens with
      | .word "if" :: tokens => do
        let _ ← line.located (Statement.readCondition tokens)
        return block :: outer
      | [] => .ok ({ block with branching := false } :: outer)
      | _ => line.fault .expectedElse
    else line.fault (.expectedEnd block.kind)

/-- The line begins a block, if its header can be read. -/
def beginBlock {α : Type} (line : Line) (header : Except Complaint α) (block : OpenBlock)
    (outline : Outline) : Except Fault Outline :=
  if outline.length < maxNesting then do
    let _ ← line.located header
    return block :: outline
  else line.fault .blocksTooDeep

/-- The outline after a line. -/
def enter (line : Line) (outline : Outline) : Except Fault Outline :=
  match line.tokens with
  | .word "end" :: _ => line.endBlock outline
  | .word "else" :: tokens => line.beginBranch tokens outline
  | .word "if" :: tokens =>
    line.beginBlock (Statement.readCondition tokens) ⟨.choice, line.number, true⟩ outline
  | .word "loop" :: tokens =>
    line.beginBlock (Statement.readHeader line tokens) ⟨.loop, line.number, false⟩ outline
  | _ => do
    let _ ← Statement.read none line []
    return outline

variable {line : Line} {tokens : List Token} {outline : Outline}

theorem enter_end (h : line.tokens = .word "end" :: tokens) :
    line.enter outline = line.endBlock outline := by
  simp only [enter, h]

theorem enter_else (h : line.tokens = .word "else" :: tokens) :
    line.enter outline = line.beginBranch tokens outline := by
  simp only [enter, h]

theorem enter_if (h : line.tokens = .word "if" :: tokens) : line.enter outline =
    line.beginBlock (Statement.readCondition tokens) ⟨.choice, line.number, true⟩ outline := by
  simp only [enter, h]

theorem enter_loop (h : line.tokens = .word "loop" :: tokens) : line.enter outline =
    line.beginBlock (Statement.readHeader line tokens) ⟨.loop, line.number, false⟩ outline := by
  simp only [enter, h]

end Line

namespace Outline

/-- The outline after some lines. -/
def follow : Outline → List Line → Except Fault Outline
  | outline, [] => .ok outline
  | outline, line :: lines => do
    let outline ← line.enter outline
    follow outline lines

/-- At the end no block may be open. -/
def finish : Outline → Except Fault Unit
  | [] => .ok ()
  | block :: _ => .error ⟨block.line, .malformed (.missingEnd block.kind)⟩

/-- What is wrong with some lines after which the source ends. -/
def check (outline : Outline) (lines : List Line) : Except Fault Unit := do
  let outline ← follow outline lines
  outline.finish

variable {outline after : Outline} {line : Line} {lines front back : List Line} {fault : Fault}

theorem follow_append (outline : Outline) (front back : List Line) :
    follow outline (front ++ back) = follow outline front >>= fun after => follow after back := by
  induction front generalizing outline with
  | nil => rfl
  | cons line front ih =>
      rw [List.cons_append, follow, follow]
      cases line.enter outline with
      | error fault => rfl
      | ok next => exact ih next

theorem check_cons (outline : Outline) (line : Line) (lines : List Line) :
    check outline (line :: lines) = line.enter outline >>= fun after => check after lines := by
  rw [check, follow]
  cases line.enter outline <;> rfl

theorem check_append (h : follow outline front = .ok after) (back : List Line) :
    check outline (front ++ back) = check after back := by
  rw [check, follow_append, h]
  rfl

/-! ### Where it goes wrong -/

/-- What goes wrong before the end goes wrong at a line, after lines with nothing wrong. -/
theorem exists_of_follow_error (h : follow outline lines = .error fault) :
    ∃ front line back after, lines = front ++ line :: back ∧ follow outline front = .ok after ∧
      line.enter after = .error fault := by
  induction lines generalizing outline with
  | nil => cases h
  | cons line lines ih =>
      rw [follow] at h
      cases henter : line.enter outline with
      | error fault' =>
          rw [henter] at h
          cases h
          exact ⟨[], line, lines, outline, rfl, rfl, henter⟩
      | ok next =>
          rw [henter] at h
          obtain ⟨front, bad, back, after, rfl, hfollow, hbad⟩ := ih h
          refine ⟨line :: front, bad, back, after, rfl, ?_, hbad⟩
          rw [follow, henter]
          exact hfollow

theorem check_eq_error (h : check outline lines = .error fault) :
    (∃ front line back after, lines = front ++ line :: back ∧ follow outline front = .ok after ∧
      line.enter after = .error fault) ∨
    ∃ block outer, follow outline lines = .ok (block :: outer) ∧
      fault = ⟨block.line, .malformed (.missingEnd block.kind)⟩ := by
  cases hfollow : follow outline lines with
  | error other =>
      rw [check, hfollow] at h
      cases h
      exact .inl (exists_of_follow_error hfollow)
  | ok after =>
      rw [check, hfollow] at h
      cases after with
      | nil => cases h
      | cons block outer =>
          cases h
          exact .inr ⟨block, outer, rfl, rfl⟩

/-- A line that goes wrong does so whatever comes after it. -/
theorem check_eq_error_of_enter (hfollow : follow outline front = .ok after)
    (henter : line.enter after = .error fault) (back : List Line) :
    check outline (front ++ line :: back) = .error fault := by
  rw [check_append hfollow, check_cons, henter]
  rfl

end Outline

namespace Line

variable {α : Type} {line : Line} {outline after : Outline} {fault : Fault}
  {header : Except Complaint α} {block : OpenBlock}

theorem isBlamed_beginBlock (h : line.beginBlock header block outline = .error fault)
    (blames : BlamesLine header) : line.IsBlamed fault := by
  unfold beginBlock at h
  split at h
  · exact isBlamed_located_bind h blames
  · exact isBlamed_fault h rfl

theorem eq_of_beginBlock (h : line.beginBlock header block outline = .ok after) :
    after = block :: outline := by
  unfold beginBlock at h
  split at h
  · obtain ⟨_, _, h⟩ := bind_eq_ok.mp h
    exact (Except.ok.inj h).symm
  · cases h

/-- A line in which something goes wrong is wrong itself. -/
theorem isBlamed_enter (h : line.enter outline = .error fault) : line.IsBlamed fault := by
  unfold enter at h
  split at h
  · unfold endBlock at h
    split at h
    · exact isBlamed_fault h rfl
    split at h
    · cases h
    · exact isBlamed_fault h rfl
  · unfold beginBranch at h
    split at h
    · exact isBlamed_fault h rfl
    split at h
    · split at h
      · exact isBlamed_located_bind h (Statement.blamesLine_readCondition _)
      · cases h
      · exact isBlamed_fault h rfl
    · exact isBlamed_fault h rfl
  · exact isBlamed_beginBlock h (Statement.blamesLine_readCondition _)
  · exact isBlamed_beginBlock h (Statement.blamesLine_readHeader _ _)
  · rcases bind_eq_error.mp h with h | ⟨_, _, h⟩
    · exact isBlamed_read h
    · cases h

end Line

/-! ### The blocks that are open -/

/-- A block as the line that opened it. -/
def OpenBlock.opener (block : OpenBlock) : BlockKind × Nat := (block.kind, block.line)

namespace Line

variable {line : Line} {lines : List Line} {outline after : Outline}
  {opened : List (BlockKind × Nat)} {opener : BlockKind × Nat}

/-- What is open after a line, if all that counts is that `if` and `loop` open a block and `end`
closes the last one. -/
def nest (opened : List (BlockKind × Nat)) (line : Line) : List (BlockKind × Nat) :=
  match line.tokens with
  | .word "end" :: _ => opened.tail
  | .word "if" :: _ => (.choice, line.number) :: opened
  | .word "loop" :: _ => (.loop, line.number) :: opened
  | _ => opened

theorem mem_nest (h : opener ∈ nest opened line) : opener ∈ opened ∨ opener.2 = line.number := by
  unfold nest at h
  split at h
  · exact .inl (List.mem_of_mem_tail h)
  · rcases List.mem_cons.mp h with rfl | h
    · exact .inr rfl
    · exact .inl h
  · rcases List.mem_cons.mp h with rfl | h
    · exact .inr rfl
    · exact .inl h
  · exact .inl h

theorem mem_foldl_nest (h : opener ∈ lines.foldl nest opened) :
    opener ∈ opened ∨ ∃ line ∈ lines, opener.2 = line.number := by
  induction lines generalizing opened with
  | nil => exact .inl h
  | cons line lines ih =>
      rcases ih h with h | ⟨other, hmem, hnumber⟩
      · exact (mem_nest h).imp_right fun hnumber => ⟨line, List.mem_cons_self, hnumber⟩
      · exact .inr ⟨other, List.mem_cons_of_mem _ hmem, hnumber⟩

/-- The blocks of an outline are opened and closed by the first words of the lines. -/
theorem nest_of_enter (h : line.enter outline = .ok after) :
    nest (outline.map OpenBlock.opener) line = after.map OpenBlock.opener := by
  obtain ⟨number, tokens⟩ := line
  unfold enter at h
  dsimp only at h
  split at h
  · unfold endBlock at h
    split at h
    · cases h
    split at h
    · cases h
      rfl
    · cases h
  · unfold beginBranch at h
    split at h
    · cases h
    split at h
    · split at h
      · obtain ⟨_, _, h⟩ := bind_eq_ok.mp h
        cases h
        rfl
      · cases h
        rfl
      · cases h
    · cases h
  · obtain rfl := eq_of_beginBlock h
    rfl
  · obtain rfl := eq_of_beginBlock h
    rfl
  · obtain ⟨_, _, h⟩ := bind_eq_ok.mp h
    cases h
    unfold nest
    split <;> simp_all

end Line

namespace Outline

variable {outline after : Outline} {lines : List Line}

theorem foldl_nest_of_follow (h : follow outline lines = .ok after) :
    lines.foldl Line.nest (outline.map OpenBlock.opener) = after.map OpenBlock.opener := by
  induction lines generalizing outline with
  | nil =>
      cases h
      rfl
  | cons line lines ih =>
      obtain ⟨next, henter, h⟩ := bind_eq_ok.mp h
      rw [List.foldl_cons, Line.nest_of_enter henter]
      exact ih h

/-! ### Closing what is open -/

/-- The lines that close all blocks. -/
def closing (outline : Outline) : List (List Token) :=
  outline.map fun block => Statement.endOf block.kind

theorem follow_closing (outline : Outline) (n : Nat) :
    follow outline (Line.numberedFrom n outline.closing) = .ok [] := by
  induction outline generalizing n with
  | nil => rfl
  | cons block outer ih =>
      have henter : (⟨n, Statement.endOf block.kind⟩ : Line).enter (block :: outer) = .ok outer :=
        if_pos (beq_self_eq_true _)
      rw [closing, List.map_cons, Line.numberedFrom, follow, henter]
      exact ih (n + 1)

end Outline

end Pseudocode
