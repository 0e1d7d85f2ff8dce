import Pseudocode.Proofs.Printing.Header

/-!
The line numbers of a written program. Numbering changes nothing that is written, and the number
that a statement gets is that of the line on which its header stands, however deep it is nested.
-/

namespace Pseudocode

theorem Line.mem_numberedFrom {n number : Nat} {tokens : List Token} {lines : List (List Token)}
    (h : ⟨number, tokens⟩ ∈ numberedFrom n lines) :
    n ≤ number ∧ lines[number - n]? = some tokens := by
  induction lines generalizing n with
  | nil => cases h
  | cons first lines ih =>
      rcases List.mem_cons.mp h with heq | hmem
      · obtain ⟨rfl, rfl⟩ := Line.mk.inj heq
        exact ⟨Nat.le_refl _, by rw [Nat.sub_self, List.getElem?_cons_zero]⟩
      · obtain ⟨hle, hline⟩ := ih hmem
        have hindex : number - n = number - (n + 1) + 1 := by omega
        exact ⟨Nat.le_of_succ_le hle, by rw [hindex, List.getElem?_cons_succ, hline]⟩

namespace Statement

/-! ### Line numbers are not written -/

theorem isEmpty_numberedAll (n : Nat) (statements : List Statement) :
    (numberedAll n statements).isEmpty = statements.isEmpty := by
  cases statements <;> rfl

mutual

theorem lines_numbered : ∀ (statement : Statement) (n : Nat),
    (statement.numbered n).lines = statement.lines
  | .output .., _ | .assign .., _ => rfl
  | .input _ (.var _), _ | .input _ (.prompt _), _ => rfl
  | .choose _ branches otherwise, n => by
      have hbranches := branchLines_numberedBranches branches [] n
      have hotherwise := linesAll_numberedAll otherwise
      rw [numbered, lines, lines, hbranches, hotherwise, isEmpty_numberedAll]
  | .count _ name first last body, n => by
      rw [numbered, lines, lines, linesAll_numberedAll body]
  | .iterate _ condition stopAt body, n => by
      rw [numbered, lines, lines, linesAll_numberedAll body]

theorem linesAll_numberedAll : ∀ (statements : List Statement) (n : Nat),
    linesAll (numberedAll n statements) = linesAll statements
  | [], _ => rfl
  | statement :: statements, n => by
      rw [numberedAll, linesAll, linesAll, lines_numbered statement,
        linesAll_numberedAll statements]

theorem branchLines_numberedBranches : ∀ (branches : List (Expr × List Statement))
    (opener : List Token) (n : Nat),
    branchLines opener (numberedBranches n branches) = branchLines opener branches
  | [], _, _ => rfl
  | (condition, body) :: branches, opener, n => by
      rw [numberedBranches, branchLines, branchLines, linesAll_numberedAll body,
        branchLines_numberedBranches branches]

end

/-! ### Headers -/

/-- The first of the lines of a statement. -/
def header (statement : Statement) : List Token :=
  statement.lines.headD []

mutual

/-- A statement and all statements in it. -/
def withInner : Statement → List Statement
  | .choose line branches otherwise =>
    .choose line branches otherwise :: (innerOfBranches branches ++ withInnerAll otherwise)
  | .count line name first last body =>
    .count line name first last body :: withInnerAll body
  | .iterate line condition stopAt body =>
    .iterate line condition stopAt body :: withInnerAll body
  | statement => [statement]

def withInnerAll : List Statement → List Statement
  | [] => []
  | statement :: statements => withInner statement ++ withInnerAll statements

def innerOfBranches : List (Expr × List Statement) → List Statement
  | [] => []
  | (_, body) :: branches => withInnerAll body ++ innerOfBranches branches

end

theorem line_numbered (statement : Statement) (n : Nat) : (statement.numbered n).line = n := by
  cases statement <;> rfl

theorem lines_ne_nil (statement : Statement) : statement.lines ≠ [] := by
  cases statement with
  | output | assign | count | iterate => exact List.cons_ne_nil _ _
  | input _ target => cases target <;> exact List.cons_ne_nil _ _
  | choose => simp [lines]

/-- The header of a statement stands on the first of its lines. -/
theorem header_mem (statement : Statement) (n : Nat) :
    ⟨(statement.numbered n).line, (statement.numbered n).header⟩ ∈
      Line.numberedFrom n statement.lines := by
  rw [line_numbered, header, lines_numbered]
  cases hlines : statement.lines with
  | nil => exact (statement.lines_ne_nil hlines).elim
  | cons tokens others => exact List.mem_cons_self

/-- Whether each of some statements has its header among some lines, with the number of it. -/
def HeadersIn (statements : List Statement) (lines : List Line) : Prop :=
  ∀ statement ∈ statements, ⟨statement.line, statement.header⟩ ∈ lines

theorem HeadersIn.append {statements statements' : List Statement} {lines : List Line}
    (h : HeadersIn statements lines) (h' : HeadersIn statements' lines) :
    HeadersIn (statements ++ statements') lines :=
  List.forall_mem_append.mpr ⟨h, h'⟩

mutual

theorem headersIn_lines : ∀ (statement : Statement) (n : Nat),
    HeadersIn (statement.numbered n).withInner (Line.numberedFrom n statement.lines)
  | .output .., n | .assign .., n => List.forall_mem_singleton.mpr (header_mem _ n)
  | .input _ (.var _), n | .input _ (.prompt _), n =>
      List.forall_mem_singleton.mpr (header_mem _ n)
  | .choose line branches otherwise, n => by
      refine List.forall_mem_cons.mpr ⟨header_mem (.choose line branches otherwise) n, ?_⟩
      have hbranches := headersIn_branchLines branches [] n
      have hotherwise := headersIn_linesAll otherwise (n + (branchLines [] branches).length + 1)
      rw [lines, Line.numberedFrom_append, Line.numberedFrom_append]
      refine HeadersIn.append (fun s hs => ?_) (fun s hs => ?_)
      · exact List.mem_append_left _ (hbranches s hs)
      · refine List.mem_append_right _ (List.mem_append_left _ ?_)
        cases otherwise with
        | nil => cases hs
        -- The line of the `else` comes before those of its statements.
        | cons => exact List.mem_cons_of_mem _ (hotherwise s hs)
  | .count line name first last body, n => by
      refine List.forall_mem_cons.mpr ⟨header_mem (.count line name first last body) n, ?_⟩
      have hbody := headersIn_linesAll body (n + 1)
      rw [lines, Line.numberedFrom, Line.numberedFrom_append]
      exact fun s hs => List.mem_cons_of_mem _ (List.mem_append_left _ (hbody s hs))
  | .iterate line condition stopAt body, n => by
      refine List.forall_mem_cons.mpr ⟨header_mem (.iterate line condition stopAt body) n, ?_⟩
      have hbody := headersIn_linesAll body (n + 1)
      rw [lines, Line.numberedFrom, Line.numberedFrom_append]
      exact fun s hs => List.mem_cons_of_mem _ (List.mem_append_left _ (hbody s hs))

theorem headersIn_linesAll : ∀ (statements : List Statement) (n : Nat),
    HeadersIn (withInnerAll (numberedAll n statements)) (Line.numberedFrom n (linesAll statements))
  | [], _ => fun _ h => nomatch h
  | statement :: statements, n => by
      have hfirst := headersIn_lines statement n
      have hothers := headersIn_linesAll statements (n + statement.lines.length)
      rw [linesAll, Line.numberedFrom_append]
      exact HeadersIn.append (fun s hs => List.mem_append_left _ (hfirst s hs))
        (fun s hs => List.mem_append_right _ (hothers s hs))

theorem headersIn_branchLines : ∀ (branches : List (Expr × List Statement)) (opener : List Token)
    (n : Nat), HeadersIn (innerOfBranches (numberedBranches n branches))
      (Line.numberedFrom n (branchLines opener branches))
  | [], _, _ => fun _ h => nomatch h
  | (condition, body) :: branches, opener, n => by
      have hbody := headersIn_linesAll body (n + 1)
      have hothers := headersIn_branchLines branches [.word "else"]
        (n + 1 + (linesAll body).length)
      rw [branchLines, Line.numberedFrom, Line.numberedFrom_append]
      exact HeadersIn.append
        (fun s hs => List.mem_cons_of_mem _ (List.mem_append_left _ (hbody s hs)))
        (fun s hs => List.mem_cons_of_mem _ (List.mem_append_right _ (hothers s hs)))

end

/-- The number of each statement in a program is that of the line of its header. -/
theorem lines_getElem?_numberedAll {program : List Statement} {statement : Statement}
    (h : statement ∈ withInnerAll (numberedAll 1 program)) :
    1 ≤ statement.line ∧ (linesAll program)[statement.line - 1]? = some statement.header :=
  Line.mem_numberedFrom (headersIn_linesAll program 1 statement h)

end Statement

end Pseudocode
