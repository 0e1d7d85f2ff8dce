import Pseudocode.Proofs.Printing.Block

/-!
The lines of a written program are read back as its statements. The statements are read by the
recursion that writes them, so there is one case for each form of statement.
-/

namespace Pseudocode

namespace Statement

variable {spell : Binary64 → List Char}

section

variable {room n : Nat}

theorem reads_output {es : List Expr} (h : readArguments (Expr.argumentTokens es) = .ok es) :
    Reads room ⟨n, .word "output" :: Expr.argumentTokens es⟩ [] (.output n es) :=
  .simple rfl fun rest => by
    show Line.located _ (readArguments _) >>= _ = _
    rw [h]
    rfl

theorem reads_input {tokens : List Token} {target : InputTarget}
    (h : readTarget tokens = .ok target) :
    Reads room ⟨n, .word "input" :: tokens⟩ [] (.input n target) :=
  .simple rfl fun rest => by
    show Line.located _ (readTarget _) >>= _ = _
    rw [h]
    rfl

theorem ne_of_reserved {name word : String} (free : isReserved name = false)
    (reserved : isReserved word = true) : name ≠ word := by
  rintro rfl
  exact absurd (free.symm.trans reserved) (by decide)

/-- A name is none of the words that start another statement or end a block. -/
theorem reads_assign {name : String} {value : Expr} {tokens : List Token}
    (free : isReserved name = false) (h : Expr.readAll ⟨tokens, 0⟩ = .ok value) :
    Reads room ⟨n, .word name :: .symbol .eq :: tokens⟩ [] (.assign n name value) := by
  have houtput : name ≠ "output" := ne_of_reserved free (by decide)
  have hinput : name ≠ "input" := ne_of_reserved free (by decide)
  have hif : name ≠ "if" := ne_of_reserved free (by decide)
  have hloop : name ≠ "loop" := ne_of_reserved free (by decide)
  have hend : name ≠ "end" := ne_of_reserved free (by decide)
  have helse : name ≠ "else" := ne_of_reserved free (by decide)
  refine .simple (by simp [Line.endsBlock, hend, helse]) fun rest => ?_
  simp only [Statement.read]
  rw [if_neg (by simp [free]), Cursor.ofTokens, h]
  rfl

theorem reads_iterate {condition : Expr} {tokens : List Token} {lines : List Line}
    {body : List Statement} (h : Expr.readAll ⟨tokens, 0⟩ = .ok condition) (stopAt : Bool)
    (hbody : ReadsAll room lines body) (m : Nat) :
    Reads (room + 1) ⟨n, .word "loop" :: .word (if stopAt then "until" else "while") :: tokens⟩
      (lines ++ [⟨m, endOf .loop⟩]) (.iterate n condition stopAt body) := by
  refine Reads.loop ?_ hbody m
  cases stopAt with
  | true =>
      show Expr.readAll _ >>= _ = _
      rw [Cursor.ofTokens, h]
      rfl
  | false =>
      show Expr.readAll _ >>= _ = _
      rw [Cursor.ofTokens, h]
      rfl

theorem reads_count {name : String} {first last : Expr} {tokens : List Token} {lines : List Line}
    {body : List Statement} (free : isReserved name = false)
    (h : readBounds tokens = .ok (first, last)) (hbody : ReadsAll room lines body) (m : Nat) :
    Reads (room + 1) ⟨n, .word "loop" :: .word name :: .word "from" :: tokens⟩
      (lines ++ [⟨m, endOf .loop⟩]) (.count n name first last body) := by
  -- With one of these words for its name the header would be that of the other kind of loop.
  have hwhile : name ≠ "while" := ne_of_reserved free (by decide)
  have huntil : name ≠ "until" := ne_of_reserved free (by decide)
  refine Reads.loop ?_ hbody m
  rw [readHeader, if_neg (by simp [free]), h]
  · rfl
  · exact hwhile
  · exact huntil

end

/-! ### All statements -/

theorem numberedFrom_branchLines (n : Nat) (opener : List Token) (condition : Expr)
    (body : List Statement) (branches : List (Expr × List Statement)) :
    Line.numberedFrom n (branchLines opener ((condition, body) :: branches)) =
      ⟨n, opener ++ conditionTokens condition⟩ ::
        (Line.numberedFrom (n + 1) (linesAll body) ++
          Line.numberedFrom (n + 1 + (linesAll body).length)
            (branchLines [.word "else"] branches)) := by
  rw [branchLines, Line.numberedFrom, Line.numberedFrom_append]

theorem readsBranches_otherwise {room n : Nat} {otherwise : List Statement}
    (h : ReadsAll room (Line.numberedFrom (n + 1) (linesAll otherwise))
      (numberedAll (n + 1) otherwise)) :
    ReadsBranches room
      (Line.numberedFrom n (if otherwise.isEmpty then [] else [.word "else"] :: linesAll otherwise))
      [] (numberedAll (n + 1) otherwise) := by
  cases otherwise with
  | nil => exact .nil
  | cons statement statements => exact .last h n

mutual

theorem reads_lines : ∀ (statement : Statement) {room n : Nat},
    statement.isWellFormed spell = true → statement.fits room = true →
    ∃ line others, Line.numberedFrom n statement.lines = line :: others ∧
      Reads room line others (statement.numbered n)
  | .output _ arguments, room, n, wellFormed, fit => by
      obtain ⟨hsome, hall⟩ := Bool.and_eq_true_iff.mp wellFormed
      have hread := readArguments_tokens (by simpa using hsome) (List.all_eq_true.mp hall) fit
      exact ⟨_, _, rfl, reads_output hread⟩
  | .input _ (.var name), room, n, wellFormed, _ =>
      ⟨_, _, rfl, reads_input (readTarget_name (isReserved_of_isName wellFormed))⟩
  | .input _ (.prompt prompt), room, n, wellFormed, fit => by
      obtain ⟨hnesting, hoperators⟩ := Bool.and_eq_true_iff.mp fit
      have hread := readTarget_prompt wellFormed (of_decide_eq_true hnesting)
        (of_decide_eq_true hoperators)
      exact ⟨_, _, rfl, reads_input hread⟩
  | .assign _ name value, room, n, wellFormed, fit => by
      obtain ⟨hname, hvalue⟩ := Bool.and_eq_true_iff.mp wellFormed
      obtain ⟨hnesting, hoperators⟩ := Expr.fitLine_singleton fit
      have hread := Expr.readAll_tokens hvalue hnesting
        (show 0 + _ ≤ maxOperators by omega)
      exact ⟨_, _, rfl, reads_assign (isReserved_of_isName hname) hread⟩
  | .choose _ [] _, _, _, wellFormed, _ => by
      simp [Statement.isWellFormed] at wellFormed
  | .choose _ ((condition, body) :: branches) otherwise, 0, _, _, fit => nomatch fit
  | .choose _ ((condition, body) :: branches) otherwise, room + 1, n, wellFormed, fit => by
      simp only [Statement.isWellFormed, areBranchesWellFormed, Bool.and_eq_true] at wellFormed
      simp only [fits, branchesFit, Bool.and_eq_true] at fit
      obtain ⟨⟨-, ⟨hcondition, hbody⟩, hbranches⟩, hotherwise⟩ := wellFormed
      obtain ⟨⟨⟨hline, hfirst⟩, hmore⟩, hlast⟩ := fit
      have hheader := readCondition_tokens hcondition hline
      have hread := readsAll_linesAll body (n := n + 1) hbody hfirst
      -- The lines after the first body are put together from their end: the `else` part goes first.
      have hrest := readsBranches_otherwise (readsAll_linesAll otherwise
        (n := n + (branchLines [] ((condition, body) :: branches)).length + 1) hotherwise hlast)
      have hothers := readsBranches_branchLines branches
        (n := n + 1 + (linesAll body).length) hbranches hmore hrest
      refine ⟨_, _, ?lines, .choose hheader hread hothers n ?m⟩
      rw [lines, Line.numberedFrom_append, Line.numberedFrom_append, numberedFrom_branchLines,
        List.cons_append, List.append_assoc, List.append_assoc]
      rfl
  | .count _ name first last body, 0, _, _, fit => nomatch fit
  | .count _ name first last body, room + 1, n, wellFormed, fit => by
      simp only [Statement.isWellFormed, Bool.and_eq_true] at wellFormed
      obtain ⟨⟨⟨hname, hfirst⟩, hlast⟩, hbody⟩ := wellFormed
      obtain ⟨hline, hroom⟩ := Bool.and_eq_true_iff.mp fit
      have hbounds := readBounds_tokens hfirst hlast hline
      have hread := readsAll_linesAll body (n := n + 1) hbody hroom
      refine ⟨_, _, rfl, ?_⟩
      rw [Line.numberedFrom_append]
      exact reads_count (isReserved_of_isName hname) hbounds hread _
  | .iterate _ condition stopAt body, 0, _, _, fit => nomatch fit
  | .iterate _ condition stopAt body, room + 1, n, wellFormed, fit => by
      obtain ⟨hcondition, hbody⟩ := Bool.and_eq_true_iff.mp wellFormed
      obtain ⟨hline, hroom⟩ := Bool.and_eq_true_iff.mp fit
      obtain ⟨hnesting, hoperators⟩ := Expr.fitLine_singleton hline
      have hheader := Expr.readAll_tokens hcondition hnesting
        (show 0 + _ ≤ maxOperators by omega)
      have hread := readsAll_linesAll body (n := n + 1) hbody hroom
      refine ⟨_, _, rfl, ?_⟩
      rw [Line.numberedFrom_append]
      exact reads_iterate hheader stopAt hread _

theorem readsAll_linesAll : ∀ (statements : List Statement) {room n : Nat},
    areWellFormed spell statements = true → allFit statements room = true →
    ReadsAll room (Line.numberedFrom n (linesAll statements)) (numberedAll n statements)
  | [], _, _, _, _ => .nil
  | statement :: statements, room, n, wellFormed, fit => by
      obtain ⟨hwellFormed, hall⟩ := Bool.and_eq_true_iff.mp wellFormed
      obtain ⟨hfit, hroom⟩ := Bool.and_eq_true_iff.mp fit
      obtain ⟨line, others, hlines, hread⟩ := reads_lines statement (n := n) hwellFormed hfit
      have hmany := readsAll_linesAll statements (n := n + statement.lines.length) hall hroom
      rw [linesAll, Line.numberedFrom_append, hlines]
      exact .cons hread hmany

theorem readsBranches_branchLines : ∀ (branches : List (Expr × List Statement)) {room n : Nat}
    {others : List Line} {otherwise : List Statement},
    areBranchesWellFormed spell branches = true → branchesFit branches room = true →
    ReadsBranches room others [] otherwise →
    ReadsBranches room (Line.numberedFrom n (branchLines [.word "else"] branches) ++ others)
      (numberedBranches n branches) otherwise
  | [], _, _, _, _, _, _, last => last
  | (condition, body) :: branches, room, n, others, otherwise, wellFormed, fit, last => by
      simp only [areBranchesWellFormed, Bool.and_eq_true] at wellFormed
      simp only [branchesFit, Bool.and_eq_true] at fit
      obtain ⟨⟨hcondition, hbody⟩, hbranches⟩ := wellFormed
      obtain ⟨⟨hline, hfirst⟩, hmore⟩ := fit
      have hheader := readCondition_tokens hcondition hline
      have hread := readsAll_linesAll body (n := n + 1) hbody hfirst
      have hothers := readsBranches_branchLines branches
        (n := n + 1 + (linesAll body).length) hbranches hmore last
      rw [numberedFrom_branchLines, List.cons_append, List.append_assoc]
      exact .cons hheader hread hothers n

end

end Statement

/-- The lines of a written program are read as its statements, with their line numbers. -/
theorem Program.ofLines_numberedFrom {spell : Binary64 → List Char} {program : List Statement}
    (wellFormed : Statement.areWellFormed spell program = true)
    (fit : Statement.allFit program maxNesting = true) :
    Program.ofLines (Line.numberedFrom 1 (Statement.linesAll program)) =
      .ok (Statement.numberedAll 1 program) := by
  have hread := (Statement.readsAll_linesAll program (n := 1) wellFormed fit).readBlock .nil
  rw [List.append_nil] at hread
  rw [Program.ofLines, hread]
  rfl

end Pseudocode
