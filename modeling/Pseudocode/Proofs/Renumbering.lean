import Pseudocode.Proofs.Printing.Block

/-!
Other line numbers. Reading lines looks at their tokens alone: if the lines of a program get other
numbers, the program that is read has these in place of the old ones, and so has the fault if there
is one. Where one line stands between others says nothing about its number, so this holds of
numbers with gaps between them as well.
-/

namespace Pseudocode

variable (f : Nat → Nat)

def Fault.renumber (fault : Fault) : Fault :=
  { fault with line := f fault.line }

def Line.renumber (line : Line) : Line :=
  { line with number := f line.number }

/-- A result in which `g` renumbers what is read, and `f` the line of a fault. -/
def renumbered {α β : Type} (g : α → β) : Except Fault α → Except Fault β
  | .ok a => .ok (g a)
  | .error fault => .error (fault.renumber f)

namespace Statement

mutual

/-- The statement with the numbers of all lines changed, those of the statements in it included. -/
def renumber : Statement → Statement
  | output line arguments => output (f line) arguments
  | input line target => input (f line) target
  | assign line name value => assign (f line) name value
  | choose line branches otherwise =>
    choose (f line) (renumberBranches branches) (renumberAll otherwise)
  | count line name first last body => count (f line) name first last (renumberAll body)
  | iterate line condition stopAt body => iterate (f line) condition stopAt (renumberAll body)

def renumberAll : List Statement → List Statement
  | [] => []
  | statement :: statements => renumber statement :: renumberAll statements

def renumberBranches : List (Expr × List Statement) → List (Expr × List Statement)
  | [] => []
  | (condition, body) :: branches => (condition, renumberAll body) :: renumberBranches branches

end

end Statement

variable {f : Nat → Nat}

@[simp] theorem Line.tokens_renumber (line : Line) : (line.renumber f).tokens = line.tokens := rfl

/-! ### Reading -/

variable {α α' β β' : Type}

/-- Two steps of a reader are renumbered one after the other. -/
theorem bind_renumbered {g : α → α'} {h : β → β'} {x : Except Fault α} {x' : Except Fault α'}
    {next : α → Except Fault β} {next' : α' → Except Fault β'} (first : x' = renumbered f g x)
    (hnext : ∀ a, next' (g a) = renumbered f h (next a)) :
    x' >>= next' = renumbered f h (x >>= next) := by
  subst first
  cases x with
  | ok a => exact hnext a
  | error fault => rfl

/-- What is read of one line alone has no number in it. -/
theorem Line.located_renumber (line : Line) (read : Except Complaint α) :
    (line.renumber f).located read = renumbered f id (line.located read) := by
  cases read <;> rfl

namespace Statement

/-- Whether a block reader gives other numbers if the lines have them. -/
def Renumbers (f : Nat → Nat) (block : BlockReader) : Prop :=
  ∀ lines, block (lines.map (Line.renumber f)) =
    renumbered f (Prod.map (renumberAll f) (List.map (Line.renumber f))) (block lines)

variable {block : BlockReader}

theorem readEnd_renumber (kind : BlockKind) (opener : Nat) (lines : List Line) :
    readEnd kind (f opener) (lines.map (Line.renumber f)) =
      renumbered f (List.map (Line.renumber f)) (readEnd kind opener lines) := by
  cases lines with
  | nil => rfl
  | cons line rest =>
      rw [List.map_cons, readEnd, readEnd, Line.tokens_renumber]
      split <;> rfl

theorem readBranches_renumber (reads : Renumbers f block) (passes : Nat) (lines : List Line) :
    readBranches block passes (lines.map (Line.renumber f)) =
      renumbered f
        (Prod.map (renumberBranches f) (Prod.map (renumberAll f) (List.map (Line.renumber f))))
        (readBranches block passes lines) := by
  induction passes generalizing lines with
  | zero => rfl
  | succ passes ih =>
      cases lines with
      | nil => rfl
      | cons line rest =>
          rw [List.map_cons, readBranches, readBranches, Line.tokens_renumber]
          split
          · refine bind_renumbered (line.located_renumber _) fun condition => ?_
            refine bind_renumbered (reads rest) fun p => ?_
            exact bind_renumbered (ih p.2) fun q => rfl
          · exact bind_renumbered (reads rest) fun p => rfl
          · rfl
          · rfl

theorem readChoice_renumber (reads : Renumbers f block) (line : Line) (tokens : List Token)
    (rest : List Line) :
    readChoice block (line.renumber f) tokens (rest.map (Line.renumber f)) =
      renumbered f (Prod.map (renumber f) (List.map (Line.renumber f)))
        (readChoice block line tokens rest) := by
  refine bind_renumbered (line.located_renumber _) fun condition => ?_
  refine bind_renumbered (reads rest) fun p => ?_
  -- The passes are as many as lines are left, with whatever numbers.
  have hlength : (p.2.map (Line.renumber f)).length = p.2.length := List.length_map _
  have hbranches := readBranches_renumber reads p.2.length p.2
  refine bind_renumbered ((congrArg (readBranches block · _) hlength).trans hbranches) fun q => ?_
  exact bind_renumbered (readEnd_renumber .choice line.number q.2.2) fun last => rfl

/-- Whether what follows from a header has other numbers if its line has. -/
def HeaderRenumbers (f : Nat → Nat) (header header' : List Statement → Statement) : Prop :=
  ∀ body, header' (renumberAll f body) = (header body).renumber f

theorem bind_readHeader_renumber {h : β → β'} {line : Line} {tokens : List Token}
    {next : (List Statement → Statement) → Except Fault β}
    {next' : (List Statement → Statement) → Except Fault β'}
    (hnext : ∀ header header', HeaderRenumbers f header header' →
      next' header' = renumbered f h (next header)) :
    (line.renumber f).located (readHeader (line.renumber f) tokens) >>= next' =
      renumbered f h (line.located (readHeader line tokens) >>= next) := by
  unfold readHeader
  split
  · cases Expr.readAll (.ofTokens _) with
    | ok condition => exact hnext _ _ fun body => rfl
    | error complaint => rfl
  · cases Expr.readAll (.ofTokens _) with
    | ok condition => exact hnext _ _ fun body => rfl
    | error complaint => rfl
  · split
    · rfl
    · cases readBounds _ with
      | ok bounds => exact hnext _ _ fun body => rfl
      | error complaint => rfl
  · rfl

theorem readLoop_renumber (reads : Renumbers f block) (line : Line) (tokens : List Token)
    (rest : List Line) :
    readLoop block (line.renumber f) tokens (rest.map (Line.renumber f)) =
      renumbered f (Prod.map (renumber f) (List.map (Line.renumber f)))
        (readLoop block line tokens rest) := by
  refine bind_readHeader_renumber fun header header' hheader => ?_
  refine bind_renumbered (reads rest) fun p => ?_
  refine bind_renumbered (readEnd_renumber .loop line.number p.2) fun last => ?_
  exact congrArg (fun statement => Except.ok (statement, _)) (hheader p.1)

theorem read_renumber {block? : Option BlockReader}
    (reads : ∀ block, block? = some block → Renumbers f block) (line : Line) (rest : List Line) :
    read block? (line.renumber f) (rest.map (Line.renumber f)) =
      renumbered f (Prod.map (renumber f) (List.map (Line.renumber f)))
        (read block? line rest) := by
  unfold read
  rw [Line.tokens_renumber]
  split
  · exact bind_renumbered (line.located_renumber _) fun arguments => rfl
  · exact bind_renumbered (line.located_renumber _) fun target => rfl
  · cases block? with
    | some block => exact readChoice_renumber (reads block rfl) line _ rest
    | none => rfl
  · cases block? with
    | some block => exact readLoop_renumber (reads block rfl) line _ rest
    | none => rfl
  · split
    · rfl
    · exact bind_renumbered (line.located_renumber _) fun value => rfl
  · rfl

theorem readMany_renumber {block? : Option BlockReader}
    (reads : ∀ block, block? = some block → Renumbers f block) (passes : Nat) :
    Renumbers f (readMany block? passes) := by
  induction passes with
  | zero => exact fun lines => rfl
  | succ passes ih =>
      intro lines
      cases lines with
      | nil => rfl
      | cons line rest =>
          have hends : (line.renumber f).endsBlock = line.endsBlock := rfl
          rw [List.map_cons, readMany, readMany, hends]
          split
          · rfl
          · refine bind_renumbered (read_renumber reads line rest) fun p => ?_
            exact bind_renumbered (ih p.2) fun q => rfl

theorem renumbers_readBlock (room : Nat) : Renumbers f (readBlock room) := by
  induction room with
  | zero =>
      intro lines
      rw [readBlock_eq, readBlock_eq, List.length_map]
      refine readMany_renumber (fun block hblock => ?_) lines.length lines
      cases hblock
  | succ room ih =>
      intro lines
      rw [readBlock_eq, readBlock_eq, List.length_map]
      refine readMany_renumber (fun block hblock => ?_) lines.length lines
      exact Option.some.inj hblock ▸ ih

end Statement

/-- If lines get other numbers, so does what is read from them. -/
theorem Program.ofLines_renumber (lines : List Line) :
    ofLines (lines.map (Line.renumber f)) =
      renumbered f (Statement.renumberAll f) (ofLines lines) := by
  refine bind_renumbered (Statement.renumbers_readBlock maxNesting lines) fun p => ?_
  obtain ⟨statements, rest⟩ := p
  cases rest <;> rfl

end Pseudocode
