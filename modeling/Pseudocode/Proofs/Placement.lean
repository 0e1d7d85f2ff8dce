import Pseudocode.Proofs.Faults
import Pseudocode.Proofs.Limits.Program

/-!
Where an expression is written. The variables that an expression names are words among the tokens
that it was read from, and if it divides then so does one of the tokens. This holds of all
expressions of a line, whatever kind of line it is.
-/

namespace Pseudocode

/-- Whether the token is an operator that divides. -/
def Token.divides : Token → Bool
  | .symbol .slash | .word "mod" | .word "div" => true
  | _ => false

theorem BinaryOp.divides_token {op : BinaryOp} (h : op.dividesBy = true) :
    op.token.divides = true := by
  cases op <;> first | rfl | cases h

/-- Whether some tokens hold what the evaluation of an expression can go wrong with. -/
structure Expr.WrittenIn (tokens : List Token) (e : Expr) : Prop where
  names : ∀ name ∈ e.names, .word name ∈ tokens
  divides : e.divides = true → ∃ token ∈ tokens, token.divides = true

namespace Expr.WrittenIn

variable {tokens tokens' : List Token} {e left right : Expr}

theorem mono (h : e.WrittenIn tokens) (hsubset : tokens ⊆ tokens') : e.WrittenIn tokens' where
  names name hname := hsubset (h.names name hname)
  divides hdivides := by
    obtain ⟨token, hmem, htoken⟩ := h.divides hdivides
    exact ⟨token, hsubset hmem, htoken⟩

theorem binary {op : BinaryOp} (h : left.WrittenIn tokens) (hop : op.token ∈ tokens)
    (h' : right.WrittenIn tokens) : (Expr.binary op left right).WrittenIn tokens where
  names := List.forall_mem_append.mpr ⟨h.names, h'.names⟩
  divides hdivides := by
    simp only [Expr.divides, Bool.or_eq_true] at hdivides
    obtain (hdivides | hdivides) | hdivides := hdivides
    · exact ⟨op.token, hop, BinaryOp.divides_token hdivides⟩
    · exact h.divides hdivides
    · exact h'.divides hdivides

end Expr.WrittenIn

theorem Leaf.writtenIn {token : Token} {e : Expr} (h : Leaf token e) : e.WrittenIn [token] := by
  cases h with
  | name name free => exact ⟨by simp [Expr.names], fun h => nomatch h⟩
  | number | text | yes | no => exact ⟨fun _ h => (nomatch h), fun h => nomatch h⟩

theorem Derives.writtenIn {phrase : Phrase} {tokens all : List Token} {e : Expr}
    {depth operators : Nat} (h : Derives phrase tokens e depth operators) (hall : tokens ⊆ all)
    (hleft : phrase.Starts (·.WrittenIn all)) : e.WrittenIn all := by
  induction h with
  | leaf leaf => exact leaf.writtenIn.mono hall
  | input _ ih =>
      have hinside := ih (fun _ h => hall (by simp [h])) trivial
      exact ⟨hinside.names, hinside.divides⟩
  | enclosed _ ih => exact ih (fun _ h => hall (by simp [h])) trivial
  | negated _ ih | denied _ ih =>
      have hoperand := ih (List.subset_of_cons_subset hall) trivial
      exact ⟨hoperand.names, hoperand.divides⟩
  | unsigned _ ih | undenied _ ih => exact ih hall trivial
  | chain _ _ _ ihFirst ihOthers =>
      obtain ⟨hfirst, hothers⟩ := List.append_subset.mp hall
      exact ihOthers hothers (ihFirst hfirst trivial)
  | stop => exact hleft
  | more _ _ _ ihOperand ihOthers =>
      obtain ⟨hop, hrest⟩ := List.cons_subset.mp hall
      obtain ⟨hoperand, hothers⟩ := List.append_subset.mp hrest
      exact ihOthers hothers (hleft.binary hop (ihOperand hoperand trivial))

/-! ### Lines -/

namespace Expr

variable {c c' : Cursor} {e : Expr} {tokens : List Token}

theorem writtenIn_read (h : read c = .ok (e, c')) : e.WrittenIn c.rest ∧ c'.rest ⊆ c.rest := by
  obtain ⟨tokens, depth, operators, hderives, -, hspan, -⟩ := covers_read h
  rw [hspan]
  exact ⟨hderives.writtenIn (List.subset_append_left ..) trivial, List.subset_append_right ..⟩

theorem writtenIn_readAll (h : readAll c = .ok e) : e.WrittenIn c.rest := by
  obtain ⟨⟨e, c'⟩, hread, h⟩ := bind_eq_ok.mp h
  obtain ⟨_, -, h⟩ := bind_eq_ok.mp h
  cases h
  exact (writtenIn_read hread).1

end Expr

namespace Statement

open Pseudocode.Expr

variable {c c' : Cursor} {e first last : Expr} {es : List Expr} {tokens : List Token}
  {target : InputTarget}

theorem writtenIn_readMore {passes : Nat} (h : readMore passes c = .ok (es, c')) :
    ∀ e ∈ es, e.WrittenIn c.rest := by
  induction passes generalizing c es with
  | zero =>
      cases h
      exact fun _ h => nomatch h
  | succ passes ih =>
      rw [readMore] at h
      split at h
      · rename_i rest hrest
        obtain ⟨⟨e, c₁⟩, hread, h⟩ := bind_eq_ok.mp h
        obtain ⟨⟨es, c₂⟩, hmore, h⟩ := bind_eq_ok.mp h
        cases h
        obtain ⟨hfirst, hsubset⟩ := writtenIn_read hread
        have hcomma : rest ⊆ c.rest := hrest ▸ List.subset_cons_self ..
        exact List.forall_mem_cons.mpr ⟨hfirst.mono hcomma, fun e he =>
          (ih hmore e he).mono (List.Subset.trans hsubset hcomma)⟩
      · cases h
        exact fun _ h => nomatch h

theorem writtenIn_readArguments (h : readArguments tokens = .ok es) :
    ∀ e ∈ es, e.WrittenIn tokens := by
  obtain ⟨e, c, more, c', hread, hmore, rfl⟩ := exists_of_readArguments h
  obtain ⟨hfirst, hsubset⟩ := writtenIn_read hread
  exact List.forall_mem_cons.mpr ⟨hfirst, fun e he => (writtenIn_readMore hmore e he).mono hsubset⟩

theorem writtenIn_readTarget (h : readTarget tokens = .ok target) :
    ∀ e ∈ target.expressions, e.WrittenIn tokens := by
  obtain ⟨name, -, rfl⟩ | ⟨e, hread, rfl⟩ := target_cases h
  · exact fun _ h => nomatch h
  · exact List.forall_mem_singleton.mpr (writtenIn_readAll hread)

theorem writtenIn_readCondition (h : readCondition tokens = .ok e) : e.WrittenIn tokens := by
  obtain ⟨c, hread⟩ := exists_of_readCondition h
  exact (writtenIn_read hread).1

theorem writtenIn_readBounds (h : readBounds tokens = .ok (first, last)) :
    first.WrittenIn tokens ∧ last.WrittenIn tokens := by
  obtain ⟨c, rest, hread, hrest, hlast⟩ := exists_of_readBounds h
  obtain ⟨hfirst, hsubset⟩ := writtenIn_read hread
  have hto : rest ⊆ c.rest := hrest ▸ List.subset_cons_self ..
  exact ⟨hfirst, (writtenIn_readAll hlast).mono (List.Subset.trans hto hsubset)⟩

end Statement

/-- The expressions that are read from a line are written in it. -/
theorem Line.writtenIn_of_expressions? {line : Line} {es : List Expr}
    (h : line.expressions? = some es) : ∀ e ∈ es, e.WrittenIn line.tokens := by
  -- Whatever kind of line it is, its expressions are read from its last tokens.
  suffices hlast : ∃ tokens, tokens ⊆ line.tokens ∧ ∀ e ∈ es, e.WrittenIn tokens by
    obtain ⟨tokens, hsubset, hwritten⟩ := hlast
    exact fun e he => (hwritten e he).mono hsubset
  have hsingle {tokens : List Token} {read : Except Complaint Expr}
      (hread : ∀ {e}, read = .ok e → e.WrittenIn tokens)
      (h : read.toOption.map (fun e => [e]) = some es) : ∀ e ∈ es, e.WrittenIn tokens := by
    obtain ⟨e, he, rfl⟩ := Option.map_eq_some_iff.mp h
    exact List.forall_mem_singleton.mpr (hread (toOption_eq_some_iff.mp he))
  unfold expressions? at h
  split at h
  · rename_i tokens htokens
    exact ⟨tokens, by simp [htokens], Statement.writtenIn_readArguments (toOption_eq_some_iff.mp h)⟩
  · rename_i tokens htokens
    obtain ⟨target, hread, rfl⟩ := Option.map_eq_some_iff.mp h
    exact ⟨tokens, by simp [htokens],
      Statement.writtenIn_readTarget (toOption_eq_some_iff.mp hread)⟩
  · rename_i tokens htokens
    exact ⟨tokens, by simp [htokens], hsingle Statement.writtenIn_readCondition h⟩
  · rename_i tokens htokens
    exact ⟨tokens, by simp [htokens], hsingle Statement.writtenIn_readCondition h⟩
  · rename_i tokens htokens
    exact ⟨tokens, by simp [htokens], hsingle Expr.writtenIn_readAll h⟩
  · rename_i tokens htokens
    exact ⟨tokens, by simp [htokens], hsingle Expr.writtenIn_readAll h⟩
  · rename_i name tokens _ _ htokens
    obtain ⟨⟨first, last⟩, hread, rfl⟩ := Option.map_eq_some_iff.mp h
    obtain ⟨hfirst, hlast⟩ := Statement.writtenIn_readBounds (toOption_eq_some_iff.mp hread)
    exact ⟨tokens, fun _ hmem => by simp [htokens, hmem],
      List.forall_mem_cons.mpr ⟨hfirst, List.forall_mem_singleton.mpr hlast⟩⟩
  · rename_i name tokens _ _ _ htokens
    exact ⟨tokens, by simp [htokens], hsingle Expr.writtenIn_readAll h⟩
  · cases h

end Pseudocode
