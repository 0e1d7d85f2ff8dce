import Pseudocode.Proofs.Grammar.Reading
import Pseudocode.Proofs.Printing

/-!
What the limits of the reader mean for the expressions that it gives. The depth of a derivation and
its operators are limited, and both are seen in the expression: it has no more operators of one
operand and inputs on a way from its root to a leaf than the derivation has levels, and as many
binary operators. So it is not deep either, and there is no reserved word among its variables.
-/

namespace Pseudocode

namespace Expr

/-- The most nodes on a way from the root to a leaf. -/
def depth : Expr → Nat
  | number _ | text _ | truth _ | var _ => 1
  | unary _ e => e.depth + 1
  | binary _ a b => max a.depth b.depth + 1
  | input prompt => prompt.depth + 1

/-- The most operators of one operand and inputs on a way from the root to a leaf. -/
def openings : Expr → Nat
  | number _ | text _ | truth _ | var _ => 0
  | unary _ e => e.openings + 1
  | binary _ a b => max a.openings b.openings
  | input prompt => prompt.openings + 1

/-- The variables of an expression. -/
def names : Expr → List String
  | number _ | text _ | truth _ => []
  | var name => [name]
  | unary _ e => e.names
  | binary _ a b => a.names ++ b.names
  | input prompt => prompt.names

/-- A node on a way to a leaf is one of the openings there or one of the binary operators, but for
the leaf itself. -/
theorem depth_le (e : Expr) : e.depth ≤ e.openings + e.operators + 1 := by
  induction e with
  | number | text | truth | var => exact Nat.le_refl 1
  | unary op e ih =>
      simp only [depth, openings, operators]
      omega
  | binary op a b iha ihb =>
      simp only [depth, openings, operators]
      omega
  | input prompt ih =>
      simp only [depth, openings, operators]
      omega

theorem operators_le_lineOperators {e : Expr} {es : List Expr} (h : e ∈ es) :
    e.operators ≤ lineOperators es := by
  induction es with
  | nil => cases h
  | cons e' es ih =>
      rw [lineOperators]
      rcases List.mem_cons.mp h with rfl | h
      · exact Nat.le_add_right _ _
      · exact Nat.le_trans (ih h) (Nat.le_add_left _ _)

/-- Whether no variable of an expression is a reserved word. -/
def IsFree (e : Expr) : Prop :=
  ∀ name ∈ e.names, isReserved name = false

end Expr

theorem Leaf.isFree {token : Token} {e : Expr} (h : Leaf token e) : e.IsFree := by
  cases h with
  | name name free => exact List.forall_mem_singleton.mpr free
  | number | text | yes | no => exact fun name hname => nomatch hname

theorem Leaf.openings_eq {token : Token} {e : Expr} (h : Leaf token e) : e.openings = 0 := by
  cases h <;> rfl

theorem Leaf.operators_eq {token : Token} {e : Expr} (h : Leaf token e) : e.operators = 0 := by
  cases h <;> rfl

namespace Phrase

/-- What holds of the expression that the phrase goes on after, if there is one. -/
def Starts (P : Expr → Prop) : Phrase → Prop
  | of _ => True
  | after _ left => P left

def operators : Phrase → Nat
  | of _ => 0
  | after _ left => left.operators

end Phrase

namespace Derives

variable {phrase : Phrase} {tokens : List Token} {e : Expr} {depth operators : Nat}

theorem openings_le (h : Derives phrase tokens e depth operators) {bound : Nat}
    (hdepth : depth ≤ bound) (hleft : phrase.Starts (·.openings ≤ bound)) :
    e.openings ≤ bound := by
  induction h generalizing bound with
  | leaf leaf =>
      rw [leaf.openings_eq]
      exact Nat.zero_le bound
  | input _ ih | negated _ ih | denied _ ih =>
      obtain ⟨bound, rfl⟩ : ∃ n, bound = n + 1 := ⟨bound - 1, by omega⟩
      exact Nat.succ_le_succ (ih (Nat.le_of_succ_le_succ hdepth) trivial)
  | enclosed _ ih => exact ih (Nat.le_of_succ_le hdepth) trivial
  | unsigned _ ih | undenied _ ih => exact ih hdepth trivial
  | chain _ _ _ ihFirst ihOthers =>
      obtain ⟨hfirst, hothers⟩ := Nat.max_le.mp hdepth
      exact ihOthers hothers (ihFirst hfirst trivial)
  | stop => exact hleft
  | more _ _ _ ihOperand ihOthers =>
      -- What goes on does so after both operands, which are beside each other.
      obtain ⟨hoperand, hothers⟩ := Nat.max_le.mp hdepth
      exact ihOthers hothers (Nat.max_le.mpr ⟨hleft, ihOperand hoperand trivial⟩)

theorem operators_eq (h : Derives phrase tokens e depth operators) :
    e.operators = phrase.operators + operators := by
  induction h with
  | leaf leaf => exact leaf.operators_eq
  | input _ ih | negated _ ih | denied _ ih | enclosed _ ih | unsigned _ ih | undenied _ ih =>
      exact ih
  | chain _ _ _ ihFirst ihOthers =>
      simp only [Phrase.operators] at ihFirst ihOthers ⊢
      omega
  | stop => rfl
  | more _ _ _ ihOperand ihOthers =>
      simp only [Phrase.operators, Expr.operators] at ihOperand ihOthers ⊢
      omega

theorem isFree (h : Derives phrase tokens e depth operators) (hleft : phrase.Starts Expr.IsFree) :
    e.IsFree := by
  induction h with
  | leaf leaf => exact leaf.isFree
  | input _ ih | negated _ ih | denied _ ih | enclosed _ ih | unsigned _ ih | undenied _ ih =>
      exact ih trivial
  | chain _ _ _ ihFirst ihOthers => exact ihOthers (ihFirst trivial)
  | stop => exact hleft
  | more _ _ _ ihOperand ihOthers =>
      exact ihOthers (List.forall_mem_append.mpr ⟨hleft, ihOperand trivial⟩)

end Derives

/-! ### Lines -/

namespace Expr

/-- What holds of each expression that is read. -/
structure IsSmall (e : Expr) : Prop where
  openings : e.openings ≤ maxNesting
  free : e.IsFree

/-- What holds of the expressions of one line. -/
structure IsLine (es : List Expr) : Prop where
  operators : lineOperators es ≤ maxOperators
  small : ∀ e ∈ es, e.IsSmall

/-- Whether expressions may have been read in a line with `m` binary operators before them, so that
there are `n` with them. -/
structure Between (m : Nat) (es : List Expr) (n : Nat) : Prop where
  operators : n = m + lineOperators es
  limit : m ≤ maxOperators → n ≤ maxOperators
  small : ∀ e ∈ es, e.IsSmall

variable {m n k : Nat} {c c' : Cursor} {e : Expr} {es : List Expr} {tokens : List Token}

theorem Between.nil (n : Nat) : Between n [] n :=
  ⟨rfl, id, fun _ h => nomatch h⟩

theorem Between.cons (h : Between m [e] n) (h' : Between n es k) : Between m (e :: es) k where
  operators := by
    have hfirst := h.operators
    have hothers := h'.operators
    simp only [lineOperators] at hfirst ⊢
    omega
  limit hlimit := h'.limit (h.limit hlimit)
  small := List.forall_mem_cons.mpr ⟨h.small e List.mem_cons_self, h'.small⟩

theorem Between.isLine (h : Between 0 es n) : IsLine es where
  operators := by
    have hlimit := h.limit (Nat.zero_le _)
    rwa [h.operators, Nat.zero_add] at hlimit
  small := h.small

theorem between_read (h : read c = .ok (e, c')) : Between c.operators [e] c'.operators := by
  obtain ⟨tokens, depth, operators, hderives, hdepth, -, hoperators, hlimit⟩ := covers_read h
  have hcount : e.operators = operators := hderives.operators_eq.trans (Nat.zero_add _)
  refine ⟨by rw [hoperators, ← hcount]; rfl, hlimit, List.forall_mem_singleton.mpr ⟨?_, ?_⟩⟩
  · exact hderives.openings_le (Nat.le_of_lt_succ hdepth) trivial
  · exact hderives.isFree trivial

theorem exists_between_of_readAll (h : readAll c = .ok e) : ∃ n, Between c.operators [e] n := by
  obtain ⟨⟨e, c'⟩, hread, h⟩ := bind_eq_ok.mp h
  obtain ⟨_, -, h⟩ := bind_eq_ok.mp h
  cases h
  exact ⟨_, between_read hread⟩

theorem isLine_of_readAll (h : readAll (.ofTokens tokens) = .ok e) : IsLine [e] := by
  obtain ⟨n, hbetween⟩ := exists_between_of_readAll h
  exact hbetween.isLine

end Expr

/-- The expressions of an input statement. -/
def InputTarget.expressions : InputTarget → List Expr
  | var _ => []
  | prompt e => [e]

namespace Statement

open Pseudocode.Expr

variable {c c' : Cursor} {e first last : Expr} {es : List Expr} {tokens : List Token}
  {target : InputTarget}

theorem exists_of_readArguments (h : readArguments tokens = .ok es) :
    ∃ e c more c', Expr.read (.ofTokens tokens) = .ok (e, c) ∧
      readMore c.rest.length c = .ok (more, c') ∧ es = e :: more := by
  obtain ⟨⟨e, c⟩, hread, h⟩ := bind_eq_ok.mp h
  obtain ⟨⟨more, c'⟩, hmore, h⟩ := bind_eq_ok.mp h
  obtain ⟨_, -, h⟩ := bind_eq_ok.mp h
  cases h
  exact ⟨e, c, more, c', hread, hmore, rfl⟩

theorem target_cases (h : readTarget tokens = .ok target) :
    (∃ name, isReserved name = false ∧ target = .var name) ∨
      ∃ e, readAll (.ofTokens tokens) = .ok e ∧ target = .prompt e := by
  have hprompt {tokens : List Token}
      (h : (readAll (.ofTokens tokens)).map InputTarget.prompt = .ok target) :
      ∃ e, readAll (.ofTokens tokens) = .ok e ∧ target = .prompt e := by
    cases hread : readAll (.ofTokens tokens) with
    | error complaint =>
        rw [hread] at h
        cases h
    | ok e =>
        rw [hread] at h
        cases h
        exact ⟨e, rfl, rfl⟩
  unfold readTarget at h
  split at h
  · cases h
  · split at h
    · exact .inr (hprompt h)
    · rename_i name hfree
      cases h
      exact .inl ⟨name, Bool.eq_false_iff.mpr hfree, rfl⟩
  · exact .inr (hprompt h)

theorem exists_of_readCondition (h : readCondition tokens = .ok e) :
    ∃ c, Expr.read (.ofTokens tokens) = .ok (e, c) := by
  obtain ⟨⟨e, c⟩, hread, h⟩ := bind_eq_ok.mp h
  dsimp only at h
  split at h
  · obtain ⟨_, -, h⟩ := bind_eq_ok.mp h
    cases h
    exact ⟨c, hread⟩
  · cases h

theorem exists_of_readBounds (h : readBounds tokens = .ok (first, last)) :
    ∃ c rest, Expr.read (.ofTokens tokens) = .ok (first, c) ∧ c.rest = .word "to" :: rest ∧
      readAll { c with rest } = .ok last := by
  obtain ⟨⟨e, c⟩, hread, h⟩ := bind_eq_ok.mp h
  dsimp only at h
  split at h
  · rename_i rest hrest
    obtain ⟨e', hlast, h⟩ := bind_eq_ok.mp h
    cases h
    exact ⟨c, rest, hread, hrest, hlast⟩
  · cases h

theorem between_readMore {passes : Nat} (h : readMore passes c = .ok (es, c')) :
    Between c.operators es c'.operators := by
  induction passes generalizing c es with
  | zero =>
      cases h
      exact .nil _
  | succ passes ih =>
      rw [readMore] at h
      split at h
      · obtain ⟨⟨e, c₁⟩, hread, h⟩ := bind_eq_ok.mp h
        obtain ⟨⟨es, c₂⟩, hmore, h⟩ := bind_eq_ok.mp h
        cases h
        exact (between_read hread).cons (ih hmore)
      · cases h
        exact .nil _

theorem isLine_of_readArguments (h : readArguments tokens = .ok es) : IsLine es ∧ es ≠ [] := by
  obtain ⟨e, c, more, c', hread, hmore, rfl⟩ := exists_of_readArguments h
  exact ⟨((between_read hread).cons (between_readMore hmore)).isLine, List.cons_ne_nil _ _⟩

theorem isLine_of_readTarget (h : readTarget tokens = .ok target) :
    IsLine target.expressions ∧ ∀ name, target = .var name → isReserved name = false := by
  obtain ⟨name, free, rfl⟩ | ⟨e, hread, rfl⟩ := target_cases h
  · refine ⟨⟨Nat.zero_le _, fun _ h => nomatch h⟩, ?_⟩
    rintro name ⟨⟩
    exact free
  · exact ⟨isLine_of_readAll hread, fun name hname => nomatch hname⟩

theorem isLine_of_readCondition (h : readCondition tokens = .ok e) : IsLine [e] := by
  obtain ⟨c, hread⟩ := exists_of_readCondition h
  exact (between_read hread).isLine

theorem isLine_of_readBounds (h : readBounds tokens = .ok (first, last)) :
    IsLine [first, last] := by
  obtain ⟨c, rest, hread, -, hlast⟩ := exists_of_readBounds h
  obtain ⟨n, hothers⟩ := exists_between_of_readAll hlast
  exact ((between_read hread).cons hothers).isLine

end Statement

end Pseudocode
