import Pseudocode.Proofs.Grammar.Reading
import Pseudocode.Proofs.Printing

/-!
A written expression derives the expression itself, with the depth and the number of operators that
were counted for it. So the reader reads it back, if both limits are kept.
-/

namespace Pseudocode

theorem Level.eq_of_rank_eq {level level' : Level} (h : level.rank = level'.rank) :
    level = level' := by
  revert h
  cases level <;> cases level' <;> decide

namespace Derives

variable {level level' : Level} {tokens tokens' : List Token} {left right e : Expr}
  {depth depth' operators operators' : Nat}

/-- An expression of the next row is one of the row. -/
theorem of_tighter (h : Derives (.of level.tighter) tokens e depth operators) :
    Derives (.of level) tokens e depth operators := by
  have hchain : level.chains = true → Derives (.of level) tokens e depth operators := by
    intro chains
    have hderives := Derives.chain chains h (.stop level e)
    rwa [List.append_nil, Nat.max_zero, Nat.add_zero] at hderives
  cases level with
  | denial => exact .undenied h
  | negation => exact .unsigned h
  | primary => exact h
  | disjunction | conjunction | comparison | sum | product => exact hchain rfl

/-- An expression of a tighter row is one of the row. -/
theorem loosen (h : Derives (.of level') tokens e depth operators)
    (hrank : level.rank ≤ level'.rank) : Derives (.of level) tokens e depth operators := by
  induction hsteps : level'.rank - level.rank generalizing level with
  | zero =>
      obtain rfl : level = level' := Level.eq_of_rank_eq (by omega)
      exact h
  | succ steps ih =>
      have hprimary : level ≠ .primary := by
        rintro rfl
        cases level' <;> simp [Level.rank] at hsteps
      have htighter := Level.rank_tighter hprimary
      exact of_tighter (ih (by omega) (by omega))

/-- With parentheses where needed, an expression of any row can stand for one of another. -/
theorem enclosedIn (h : Derives (.of level') tokens e depth operators) (level : Level) :
    Derives (.of level) (Expr.enclosedIn level level' tokens) e
      (Expr.nestingIn level level' depth) operators := by
  unfold Expr.enclosedIn Expr.nestingIn
  split
  · exact h.loosen ‹_›
  · have hinside : Derives (.of .disjunction) tokens e depth operators := h.loosen (Nat.zero_le _)
    exact (Derives.enclosed hinside).loosen (by cases level <;> decide)

/-- What goes on after an expression can go on with one more operand. -/
theorem concat {op : BinaryOp} (h : Derives (.after level left) tokens e depth operators)
    (row : op.level = level)
    (operand : Derives (.of level.tighter) tokens' right depth' operators') :
    Derives (.after level left) (tokens ++ op.token :: tokens') (.binary op e right)
      (max depth depth') (operators + operators' + 1) := by
  generalize hphrase : Phrase.after level left = phrase at h
  induction h generalizing left with
  | stop _ left =>
      cases hphrase
      have hderives := Derives.more row operand (.stop _ (.binary op left right))
      rw [List.append_nil, Nat.max_zero, Nat.add_zero] at hderives
      rwa [List.nil_append, Nat.zero_max, Nat.zero_add]
  | @more _ _ _ _ _ _ _ _ _ operators₁ operators₂ row' operand' _ _ ihOthers =>
      cases hphrase
      have hderives := Derives.more row' operand' (ihOthers rfl)
      have hcount : operators₁ + operators₂ + 1 + operators' + 1 =
          operators₁ + (operators₂ + operators' + 1) + 1 := by omega
      rwa [List.cons_append, List.append_assoc, Nat.max_assoc, hcount]
  | _ => cases hphrase

/-- An expression of a row of operators can go on with one more operand. -/
theorem operator {op : BinaryOp} (row : op.level = level)
    (first : Derives (.of level) tokens left depth operators)
    (operand : Derives (.of level.tighter) tokens' right depth' operators') :
    Derives (.of level) (tokens ++ op.token :: tokens') (.binary op left right)
      (max depth depth') (operators + operators' + 1) := by
  have chains : level.chains = true := row ▸ op.chains_level
  -- Operators group to the left, so `left` is a chain itself, and the operand comes after its last.
  cases first with
  | @chain _ _ _ _ _ _ _ operators₁ operators₂ chains first others =>
      have hderives := Derives.chain chains first (others.concat row operand)
      have hcount : operators₁ + operators₂ + operators' + 1 =
          operators₁ + (operators₂ + operators' + 1) := by omega
      rwa [List.append_assoc, Nat.max_assoc, hcount]
  | _ => cases chains

end Derives

namespace Expr

variable {spell : Binary64 → List Char} {e : Expr}

theorem derives_tokens (h : e.isWellFormed spell = true) :
    Derives (.of e.level) e.tokens e e.nesting e.operators := by
  induction e with
  | number n => exact .leaf (.number n)
  | text s => exact .leaf (.text s)
  | truth b =>
      cases b with
      | true => exact .leaf .yes
      | false => exact .leaf .no
  | var name => exact .leaf (.name name (isReserved_of_isName h))
  | unary op e ih =>
      have hoperand := (ih h).enclosedIn op.level
      cases op with
      | neg => exact .negated hoperand
      | not => exact .denied hoperand
  | binary op a b iha ihb =>
      obtain ⟨ha, hb⟩ := Bool.and_eq_true_iff.mp h
      exact ((iha ha).enclosedIn op.level).operator rfl ((ihb hb).enclosedIn op.level.tighter)
  | input prompt ih => exact .input ((ih h).loosen (Nat.zero_le _))

/-- A written expression is read back, up to where no operator goes on. -/
theorem read_tokens (h : e.isWellFormed spell = true) (within : e.nesting ≤ maxNesting)
    {before : Nat} (limit : before + e.operators ≤ maxOperators) {rest : List Token}
    (closed : Level.disjunction.Closed rest) :
    read ⟨e.tokens ++ rest, before⟩ = .ok (e, ⟨rest, before + e.operators⟩) := by
  have hderives : Derives (.of .disjunction) e.tokens e e.nesting e.operators :=
    (derives_tokens h).loosen (Nat.zero_le _)
  exact hderives.read within limit closed

theorem readAll_tokens (h : e.isWellFormed spell = true) (within : e.nesting ≤ maxNesting)
    {before : Nat} (limit : before + e.operators ≤ maxOperators) :
    readAll ⟨e.tokens, before⟩ = .ok e := by
  have hread := read_tokens h within limit (.nil .disjunction)
  rw [List.append_nil] at hread
  unfold readAll
  rw [hread]
  rfl

end Expr

end Pseudocode
