import Pseudocode.Proofs.Printing.Header

/-!
Blocks are read back. What is read of the lines of a statement, of a block or of the rest of a
choice does not depend on the lines after them, as long as a line follows that ends the block. So
such lines can be put together as the syntax puts them together.
-/

namespace Pseudocode

namespace Statement

/-- Reads the blocks in a statement that stands in a block with `room` levels further in. -/
def blockWithin : Nat → Option BlockReader
  | 0 => none
  | room + 1 => some (readBlock room)

theorem readBlock_eq (room : Nat) (lines : List Line) :
    readBlock room lines = readMany (blockWithin room) lines.length lines := by
  cases room <;> rfl

/-- Whether lines are the end of their block, or all have been read. -/
def Ended (rest : List Line) : Prop :=
  ∀ line ∈ rest.head?, line.endsBlock = true

variable {room n : Nat} {line : Line} {lines others rest : List Line} {statement : Statement}
  {statements otherwise body : List Statement} {branches : List (Expr × List Statement)}
  {condition : Expr} {tokens : List Token}

theorem Ended.nil : Ended [] :=
  fun _ h => nomatch h

theorem Ended.cons (h : line.endsBlock = true) : Ended (line :: rest) :=
  fun _ hline => Option.some.inj hline ▸ h

/-- The lines are read as the statement. -/
structure Reads (room : Nat) (line : Line) (others : List Line) (statement : Statement) : Prop where
  starts : line.endsBlock = false
  read : ∀ rest, Statement.read (blockWithin room) line (others ++ rest) = .ok (statement, rest)

/-- The lines are read as the statements of a block. -/
structure ReadsAll (room : Nat) (lines : List Line) (statements : List Statement) : Prop where
  passes : statements.length ≤ lines.length
  readMany : ∀ {passes rest}, statements.length ≤ passes → Ended rest →
    Statement.readMany (blockWithin room) passes (lines ++ rest) = .ok (statements, rest)

namespace ReadsAll

theorem nil : ReadsAll room [] [] where
  passes := Nat.le_refl 0
  readMany := by
    intro passes rest _ ended
    cases passes with
    | zero => rfl
    | succ passes =>
        cases rest with
        | nil => rfl
        | cons line rest =>
            -- The line that ends the block is left to whoever reads what is around it.
            have hends := ended line rfl
            rw [List.nil_append, Statement.readMany, hends]
            rfl

theorem cons (first : Reads room line others statement) (h : ReadsAll room lines statements) :
    ReadsAll room (line :: (others ++ lines)) (statement :: statements) where
  passes := by
    have := h.passes
    simp only [List.length_cons, List.length_append]
    omega
  readMany := by
    intro passes rest enough ended
    cases passes with
    | zero => exact (Nat.not_succ_le_zero _ enough).elim
    | succ passes =>
        have hread := first.read (lines ++ rest)
        have hmany := h.readMany (Nat.le_of_succ_le_succ enough) ended
        rw [List.cons_append, List.append_assoc, Statement.readMany, first.starts]
        show Statement.read _ _ _ >>= _ = _
        rw [hread, ok_bind]
        show Statement.readMany _ _ _ >>= _ = _
        rw [hmany]
        rfl

theorem readBlock (h : ReadsAll room lines statements) (ended : Ended rest) :
    Statement.readBlock room (lines ++ rest) = .ok (statements, rest) := by
  rw [readBlock_eq]
  refine h.readMany ?_ ended
  rw [List.length_append]
  exact Nat.le_add_right_of_le h.passes

end ReadsAll

/-! ### Choices -/

/-- After the first branch of a choice the lines are read as the other branches and the `else`
part, up to the end of the choice. -/
structure ReadsBranches (room : Nat) (lines : List Line) (branches : List (Expr × List Statement))
    (otherwise : List Statement) : Prop where
  ended : ∀ {rest}, Ended rest → Ended (lines ++ rest)
  readBranches : ∀ {passes}, lines.length ≤ passes → ∀ n rest,
    Statement.readBranches (readBlock room) passes (lines ++ ⟨n, endOf .choice⟩ :: rest) =
      .ok (branches, otherwise, ⟨n, endOf .choice⟩ :: rest)

theorem ended_endOf (n : Nat) (kind : BlockKind) (rest : List Line) :
    Ended (⟨n, endOf kind⟩ :: rest) :=
  .cons rfl

theorem readEnd_endOf (kind : BlockKind) (opener n : Nat) (rest : List Line) :
    readEnd kind opener (⟨n, endOf kind⟩ :: rest) = .ok rest := by
  rw [readEnd, if_pos (by exact beq_self_eq_true _)]

namespace ReadsBranches

theorem nil : ReadsBranches room [] [] [] where
  ended ended := ended
  readBranches {passes} _ _ _ := by cases passes <;> rfl

/-- The `else` part comes last. -/
theorem last (h : ReadsAll room lines otherwise) (n : Nat) :
    ReadsBranches room (⟨n, [.word "else"]⟩ :: lines) [] otherwise where
  ended _ := .cons rfl
  readBranches {passes} enough m rest := by
    cases passes with
    | zero => exact (Nat.not_succ_le_zero _ enough).elim
    | succ passes =>
        have hblock := h.readBlock (ended_endOf m .choice rest)
        rw [List.cons_append]
        show Statement.readBlock _ _ >>= _ = _
        rw [hblock]
        rfl

theorem cons (header : readCondition tokens = .ok condition) (first : ReadsAll room lines body)
    (h : ReadsBranches room others branches otherwise) (n : Nat) :
    ReadsBranches room (⟨n, .word "else" :: .word "if" :: tokens⟩ :: (lines ++ others))
      ((condition, body) :: branches) otherwise where
  ended _ := .cons rfl
  readBranches {passes} enough m rest := by
    cases passes with
    | zero => exact (Nat.not_succ_le_zero _ enough).elim
    | succ passes =>
        have hblock := first.readBlock (h.ended (ended_endOf m .choice rest))
        have hothers : others.length ≤ passes := by
          simp only [List.length_cons, List.length_append] at enough
          omega
        have hbranches := h.readBranches hothers m rest
        rw [List.cons_append, List.append_assoc]
        show Line.located _ (readCondition tokens) >>= _ = _
        rw [header]
        show Statement.readBlock _ _ >>= _ = _
        rw [hblock, ok_bind]
        show Statement.readBranches _ _ _ >>= _ = _
        rw [hbranches]
        rfl

end ReadsBranches

namespace Reads

/-- A statement of one line. -/
theorem simple (starts : line.endsBlock = false)
    (read : ∀ rest, Statement.read (blockWithin room) line rest = .ok (statement, rest)) :
    Reads room line [] statement where
  starts := starts
  read := read

theorem choose (header : readCondition tokens = .ok condition) (first : ReadsAll room lines body)
    (h : ReadsBranches room others branches otherwise) (n m : Nat) :
    Reads (room + 1) ⟨n, .word "if" :: tokens⟩ (lines ++ (others ++ [⟨m, endOf .choice⟩]))
      (.choose n ((condition, body) :: branches) otherwise) where
  starts := rfl
  read rest := by
    have hblock := first.readBlock (h.ended (ended_endOf m .choice rest))
    have henough : others.length ≤ (others ++ ⟨m, endOf .choice⟩ :: rest).length := by
      rw [List.length_append]
      exact Nat.le_add_right _ _
    have hbranches := h.readBranches henough m rest
    have hend := readEnd_endOf .choice n m rest
    rw [List.append_assoc, List.append_assoc, List.singleton_append]
    show Line.located _ (readCondition tokens) >>= _ = _
    rw [header]
    show Statement.readBlock _ _ >>= _ = _
    rw [hblock, ok_bind]
    show Statement.readBranches _ _ _ >>= _ = _
    rw [hbranches, ok_bind]
    show readEnd _ _ _ >>= _ = _
    rw [hend]
    rfl

theorem loop {header : List Statement → Statement}
    (hheader : readHeader ⟨n, .word "loop" :: tokens⟩ tokens = .ok header)
    (h : ReadsAll room lines body) (m : Nat) :
    Reads (room + 1) ⟨n, .word "loop" :: tokens⟩ (lines ++ [⟨m, endOf .loop⟩]) (header body) where
  starts := rfl
  read rest := by
    have hblock := h.readBlock (ended_endOf m .loop rest)
    have hend := readEnd_endOf .loop n m rest
    rw [List.append_assoc, List.singleton_append]
    show Line.located _ (readHeader _ tokens) >>= _ = _
    rw [hheader]
    show Statement.readBlock _ _ >>= _ = _
    rw [hblock, ok_bind]
    show readEnd _ _ _ >>= _ = _
    rw [hend]
    rfl

end Reads

end Statement

end Pseudocode
