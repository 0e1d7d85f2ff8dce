import Pseudocode.Program.Block
import Pseudocode.Proofs.Grammar.Reading

/-!
Which faults are found in a line alone. Whatever goes wrong while one line is read is wrong with
that line; only a block that comes to no end is found at the end of the source.
-/

namespace Pseudocode

theorem bind_eq_error {ε α β : Type} {x : Except ε α} {f : α → Except ε β} {e : ε} :
    x >>= f = .error e ↔ x = .error e ∨ ∃ a, x = .ok a ∧ f a = .error e := by
  cases x with
  | error => simp [bind, Except.bind]
  | ok a => simp [bind, Except.bind]

/-- Whether a complaint is about the line at which it arises, and not about what comes to no end. -/
def Complaint.isOfLine : Complaint → Bool
  | missingEnd _ => false
  | _ => true

/-- Whether what goes wrong, if anything, is wrong with the line that is read. -/
def BlamesLine {α : Type} (read : Except Complaint α) : Prop :=
  ∀ complaint, read = .error complaint → complaint.isOfLine = true

namespace BlamesLine

variable {α β : Type}

theorem ok (a : α) : BlamesLine (.ok a) :=
  fun _ h => nomatch h

theorem error {complaint : Complaint} (h : complaint.isOfLine = true) :
    BlamesLine (.error complaint : Except Complaint α) :=
  fun _ heq => Except.error.inj heq ▸ h

theorem bind {x : Except Complaint α} {f : α → Except Complaint β} (first : BlamesLine x)
    (next : ∀ a, BlamesLine (f a)) : BlamesLine (x >>= f) := by
  cases x with
  | ok a => exact next a
  | error complaint => exact .error (first complaint rfl)

theorem map {x : Except Complaint α} (h : BlamesLine x) (f : α → β) : BlamesLine (x.map f) := by
  cases x with
  | ok a => exact .ok (f a)
  | error complaint => exact .error (h complaint rfl)

end BlamesLine

theorem Cursor.blamesLine_countOperator (c : Cursor) : BlamesLine c.countOperator := by
  unfold countOperator
  split
  · exact .ok _
  · exact .error rfl

theorem Cursor.blamesLine_finish (c : Cursor) : BlamesLine c.finish := by
  unfold finish
  split
  · exact .ok _
  · exact .error rfl

namespace Expr

variable {operand : Reader Expr} {inner : Inner}

theorem blamesLine_chain (op? : Token → Option BinaryOp) (h : ∀ c, BlamesLine (operand c))
    (c : Cursor) : BlamesLine (chain op? operand c) := by
  have hfrom (passes : Nat) : ∀ left c, BlamesLine (chainFrom op? operand passes left c) := by
    induction passes with
    | zero => exact fun _ _ => .ok _
    | succ passes ih =>
        intro left c
        rw [chainFrom]
        split
        · exact .ok _
        split
        · exact .ok _
        · exact (h _).bind fun _ => (Cursor.blamesLine_countOperator _).bind fun _ => ih _ _
  exact (h c).bind fun _ => hfrom _ _ _

/-- Whether what goes wrong further in is wrong with the line. -/
structure Inner.BlamesLine (inner : Inner) : Prop where
  negated : ∀ c, Pseudocode.BlamesLine (inner.negated c)
  denied : ∀ c, Pseudocode.BlamesLine (inner.denied c)
  enclosed : ∀ c, Pseudocode.BlamesLine (inner.enclosed c)

theorem blamesLine_upToParen (h : inner.BlamesLine) (c : Cursor) :
    BlamesLine (upToParen inner c) := by
  refine (h.enclosed c).bind fun p => ?_
  dsimp only
  split
  · exact .ok _
  · exact .error rfl

theorem blamesLine_primary (h : inner.BlamesLine) (c : Cursor) : BlamesLine (primary inner c) := by
  unfold primary
  split
  · exact .error rfl
  · exact .ok _
  · exact .ok _
  · exact .ok _
  · exact .ok _
  · exact (blamesLine_upToParen h _).bind fun _ => .ok _
  · exact .error rfl
  · split
    · exact .error rfl
    · exact .ok _
  · exact blamesLine_upToParen h _
  · exact .error rfl

theorem blamesLine_negation (h : inner.BlamesLine) (c : Cursor) :
    BlamesLine (negation inner c) := by
  unfold negation
  split
  · exact (h.negated _).bind fun _ => .ok _
  · exact blamesLine_primary h c

theorem blamesLine_denial (h : inner.BlamesLine) (c : Cursor) : BlamesLine (denial inner c) := by
  unfold denial
  split
  · exact (h.denied _).bind fun _ => .ok _
  · exact blamesLine_chain _ (blamesLine_chain _ (blamesLine_chain _ (blamesLine_negation h))) c

theorem Inner.BlamesLine.around (h : inner.BlamesLine) : (Inner.around inner).BlamesLine where
  negated := blamesLine_negation h
  denied := blamesLine_denial h
  enclosed := blamesLine_chain _ (blamesLine_chain _ (blamesLine_denial h))

theorem blamesLine_beneath (room : Nat) : (Inner.beneath room).BlamesLine := by
  induction room with
  | zero => exact ⟨fun _ => .error rfl, fun _ => .error rfl, fun _ => .error rfl⟩
  | succ room ih =>
      rw [Inner.beneath, Inner.withRoom_eq]
      exact ih.around

theorem blamesLine_read (c : Cursor) : BlamesLine (Expr.read c) := by
  have h := (blamesLine_beneath (maxNesting + 1)).enclosed c
  exact h

theorem blamesLine_readAll (c : Cursor) : BlamesLine (Expr.readAll c) :=
  (blamesLine_read c).bind fun _ => (Cursor.blamesLine_finish _).bind fun _ => .ok _

end Expr

namespace Statement

open Pseudocode.Expr

theorem blamesLine_readMore (passes : Nat) : ∀ c, BlamesLine (readMore passes c) := by
  induction passes with
  | zero => exact fun _ => .ok _
  | succ passes ih =>
      intro c
      rw [readMore]
      split
      · exact (blamesLine_read _).bind fun _ => (ih _).bind fun _ => .ok _
      · exact .ok _

theorem blamesLine_readArguments (tokens : List Token) : BlamesLine (readArguments tokens) :=
  (blamesLine_read _).bind fun _ => (blamesLine_readMore _ _).bind fun _ =>
    (Cursor.blamesLine_finish _).bind fun _ => .ok _

theorem blamesLine_readTarget (tokens : List Token) : BlamesLine (readTarget tokens) := by
  unfold readTarget
  split
  · exact .error rfl
  · split
    · exact (blamesLine_readAll _).map _
    · exact .ok _
  · exact (blamesLine_readAll _).map _

theorem blamesLine_readCondition (tokens : List Token) : BlamesLine (readCondition tokens) := by
  refine (blamesLine_read _).bind fun p => ?_
  dsimp only
  split
  · exact (Cursor.blamesLine_finish _).bind fun _ => .ok _
  · exact .error rfl

theorem blamesLine_readBounds (tokens : List Token) : BlamesLine (readBounds tokens) := by
  refine (blamesLine_read _).bind fun p => ?_
  dsimp only
  split
  · exact (blamesLine_readAll _).bind fun _ => .ok _
  · exact .error rfl

theorem blamesLine_readHeader (line : Line) (tokens : List Token) :
    BlamesLine (readHeader line tokens) := by
  unfold readHeader
  split
  · exact (blamesLine_readAll _).bind fun _ => .ok _
  · exact (blamesLine_readAll _).bind fun _ => .ok _
  · split
    · exact .error rfl
    · exact (blamesLine_readBounds _).bind fun _ => .ok _
  · exact .error rfl

end Statement

namespace Line

/-- Whether a fault is one of the line. -/
def IsBlamed (line : Line) (fault : Fault) : Prop :=
  fault.line = line.number ∧
    ∃ complaint, fault.cause = .malformed complaint ∧ complaint.isOfLine = true

variable {α : Type} {line : Line} {f : Fault}

theorem isBlamed_fault {complaint : Complaint}
    (h : (line.fault complaint : Except Fault α) = .error f)
    (blames : complaint.isOfLine = true) : line.IsBlamed f := by
  cases h
  exact ⟨rfl, complaint, rfl, blames⟩

theorem isBlamed_located {read : Except Complaint α} (h : line.located read = .error f)
    (blames : BlamesLine read) : line.IsBlamed f := by
  cases read with
  | ok a => cases h
  | error complaint => exact isBlamed_fault h (blames complaint rfl)

theorem isBlamed_located_bind {β : Type} {read : Except Complaint α} {next : α → β}
    (h : (line.located read >>= fun a => .ok (next a)) = .error f) (blames : BlamesLine read) :
    line.IsBlamed f := by
  rcases bind_eq_error.mp h with h | ⟨_, _, h⟩
  · exact isBlamed_located h blames
  · cases h

/-- A statement of one line can only have something wrong with the line. -/
theorem isBlamed_read {rest : List Line} (h : Statement.read none line rest = .error f) :
    line.IsBlamed f := by
  unfold Statement.read at h
  split at h
  · exact isBlamed_located_bind h (Statement.blamesLine_readArguments _)
  · exact isBlamed_located_bind h (Statement.blamesLine_readTarget _)
  · exact isBlamed_fault h rfl
  · exact isBlamed_fault h rfl
  · split at h
    · exact isBlamed_fault h rfl
    · exact isBlamed_located_bind h (Expr.blamesLine_readAll _)
  · exact isBlamed_fault h rfl

end Line

end Pseudocode
