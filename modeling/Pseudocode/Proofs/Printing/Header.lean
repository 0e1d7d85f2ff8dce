import Pseudocode.Proofs.Printing.Expression

/-!
The lines of a program that is written are read back as its statements, each with the number of the
line of its header. A block is read up to the line that ends it, so what is read of a statement does
not depend on the lines after it.
-/

namespace Pseudocode

namespace Level

theorem closed_comma (rest : List Token) : disjunction.Closed (.symbol .comma :: rest) :=
  closed_of_forall_ne (by rintro ⟨⟩ <;> decide)

theorem closed_then (rest : List Token) : disjunction.Closed (.word "then" :: rest) :=
  closed_of_forall_ne (by rintro ⟨⟩ <;> decide)

theorem closed_to (rest : List Token) : disjunction.Closed (.word "to" :: rest) :=
  closed_of_forall_ne (by rintro ⟨⟩ <;> decide)

end Level

namespace Line

/-- Lines with successive numbers. -/
def numberedFrom (n : Nat) : List (List Token) → List Line
  | [] => []
  | tokens :: lines => ⟨n, tokens⟩ :: numberedFrom (n + 1) lines

theorem numberedFrom_append (n : Nat) (lines lines' : List (List Token)) :
    numberedFrom n (lines ++ lines') =
      numberedFrom n lines ++ numberedFrom (n + lines.length) lines' := by
  induction lines generalizing n with
  | nil => rfl
  | cons tokens lines ih =>
      rw [List.cons_append, numberedFrom, ih, List.length_cons, Nat.add_right_comm]
      rfl

end Line

namespace Expr

/-- The tokens of the arguments after the first one. -/
def moreTokens (es : List Expr) : List Token :=
  es.flatMap fun e => .symbol .comma :: e.tokens

theorem moreTokens_cons (e : Expr) (es : List Expr) :
    moreTokens (e :: es) = .symbol .comma :: (e.tokens ++ moreTokens es) :=
  List.flatMap_cons

theorem argumentTokens_cons (e : Expr) (es : List Expr) :
    argumentTokens (e :: es) = e.tokens ++ moreTokens es := by
  induction es generalizing e with
  | nil => exact (List.append_nil e.tokens).symm
  | cons e' es ih =>
      rw [moreTokens_cons, ← ih]
      rfl

theorem length_le_moreTokens (es : List Expr) : es.length ≤ (moreTokens es).length := by
  induction es with
  | nil => exact Nat.le_refl 0
  | cons e es ih =>
      rw [moreTokens_cons, List.length_cons, List.length_cons, List.length_append]
      omega

/-- After an argument there is a comma or nothing. -/
theorem closed_moreTokens (es : List Expr) : Level.disjunction.Closed (moreTokens es) := by
  cases es with
  | nil => exact .nil _
  | cons e es => exact Level.closed_comma _

theorem fitLine_cons {e : Expr} {es : List Expr} (h : fitLine (e :: es) = true) :
    e.nesting ≤ maxNesting ∧ (∀ e' ∈ es, e'.nesting ≤ maxNesting) ∧
      e.operators + lineOperators es ≤ maxOperators := by
  obtain ⟨hall, hoperators⟩ := Bool.and_eq_true_iff.mp h
  obtain ⟨hfirst, hothers⟩ := Bool.and_eq_true_iff.mp hall
  exact ⟨of_decide_eq_true hfirst,
    fun e' he' => of_decide_eq_true (List.all_eq_true.mp hothers e' he'),
    of_decide_eq_true hoperators⟩

theorem fitLine_singleton {e : Expr} (h : fitLine [e] = true) :
    e.nesting ≤ maxNesting ∧ e.operators ≤ maxOperators := by
  obtain ⟨hnesting, -, hoperators⟩ := fitLine_cons h
  exact ⟨hnesting, hoperators⟩

end Expr

namespace Statement

variable {spell : Binary64 → List Char}

/-! ### Headers -/

theorem readMore_moreTokens {es : List Expr} (wellFormed : ∀ e ∈ es, e.isWellFormed spell = true)
    (within : ∀ e ∈ es, e.nesting ≤ maxNesting) {before : Nat}
    (limit : before + Expr.lineOperators es ≤ maxOperators) {passes : Nat}
    (enough : es.length ≤ passes) :
    readMore passes ⟨Expr.moreTokens es, before⟩ =
      .ok (es, ⟨[], before + Expr.lineOperators es⟩) := by
  induction es generalizing before passes with
  | nil => cases passes <;> rfl
  | cons e es ih =>
      cases passes with
      | zero => exact (Nat.not_succ_le_zero _ enough).elim
      | succ passes =>
          rw [Expr.lineOperators] at limit
          have hread := Expr.read_tokens (wellFormed e List.mem_cons_self)
            (within e List.mem_cons_self) (show before + _ ≤ maxOperators by omega)
            (Expr.closed_moreTokens es)
          have hmore := ih (fun e he => wellFormed e (List.mem_cons_of_mem _ he))
            (fun e he => within e (List.mem_cons_of_mem _ he))
            (show before + e.operators + _ ≤ maxOperators by omega)
            (Nat.le_of_succ_le_succ enough)
          rw [Expr.moreTokens_cons, readMore]
          show Expr.read ⟨_, before⟩ >>= _ = _
          rw [hread, ok_bind]
          show readMore passes ⟨_, _⟩ >>= _ = _
          rw [hmore, ok_bind, Expr.lineOperators, Nat.add_assoc]

theorem readArguments_tokens {es : List Expr} (some : es ≠ [])
    (wellFormed : ∀ e ∈ es, e.isWellFormed spell = true) (fit : Expr.fitLine es = true) :
    readArguments (Expr.argumentTokens es) = .ok es := by
  cases es with
  | nil => exact (some rfl).elim
  | cons e es =>
      obtain ⟨hnesting, hothers, hoperators⟩ := Expr.fitLine_cons fit
      have hread := Expr.read_tokens (wellFormed e List.mem_cons_self) hnesting
        (show 0 + _ ≤ maxOperators by omega) (Expr.closed_moreTokens es)
      have hmore := readMore_moreTokens
        (fun e he => wellFormed e (List.mem_cons_of_mem _ he)) hothers
        (show 0 + e.operators + _ ≤ maxOperators by omega) (Expr.length_le_moreTokens es)
      rw [Expr.argumentTokens_cons, readArguments, Cursor.ofTokens, hread, ok_bind]
      show readMore _ ⟨_, _⟩ >>= _ = _
      rw [hmore]
      rfl

theorem readTarget_name {name : String} (free : isReserved name = false) :
    readTarget [.word name] = .ok (.var name) := by
  rw [readTarget, free]
  rfl

theorem readTarget_prompt {prompt : Expr} (wellFormed : prompt.isWellFormed spell = true)
    (within : prompt.nesting + 1 ≤ maxNesting) (limit : prompt.operators ≤ maxOperators) :
    readTarget (.symbol .leftParen :: (prompt.tokens ++ [.symbol .rightParen])) =
      .ok (.prompt prompt) := by
  have hinside : Derives (.of .disjunction) prompt.tokens prompt prompt.nesting prompt.operators :=
    (Expr.derives_tokens wellFormed).loosen (Nat.zero_le _)
  have henclosed : Derives (.of .disjunction)
      (.symbol .leftParen :: (prompt.tokens ++ [.symbol .rightParen])) prompt (prompt.nesting + 1)
      prompt.operators := (Derives.enclosed hinside).loosen (Nat.zero_le _)
  have hread := henclosed.read within (show 0 + _ ≤ maxOperators by omega) (.nil .disjunction)
  rw [List.append_nil] at hread
  show (Expr.readAll ⟨_, 0⟩).map InputTarget.prompt = _
  rw [Expr.readAll, hread]
  rfl

theorem readCondition_tokens {condition : Expr} (wellFormed : condition.isWellFormed spell = true)
    (fit : Expr.fitLine [condition] = true) :
    readCondition (condition.tokens ++ [.word "then"]) = .ok condition := by
  obtain ⟨hnesting, hoperators⟩ := Expr.fitLine_singleton fit
  have hread := Expr.read_tokens wellFormed hnesting
    (show 0 + _ ≤ maxOperators by omega) (Level.closed_then [])
  rw [readCondition, Cursor.ofTokens, hread]
  rfl

theorem readBounds_tokens {first last : Expr} (hfirst : first.isWellFormed spell = true)
    (hlast : last.isWellFormed spell = true) (fit : Expr.fitLine [first, last] = true) :
    readBounds (first.tokens ++ .word "to" :: last.tokens) = .ok (first, last) := by
  obtain ⟨hnesting, hothers, hsum⟩ := Expr.fitLine_cons fit
  rw [Expr.lineOperators, Expr.lineOperators] at hsum
  have hread := Expr.read_tokens hfirst hnesting (show 0 + _ ≤ maxOperators by omega)
    (Level.closed_to last.tokens)
  have hrest := Expr.readAll_tokens hlast (hothers last List.mem_cons_self)
    (show 0 + first.operators + _ ≤ maxOperators by omega)
  rw [readBounds, Cursor.ofTokens, hread, ok_bind]
  show Expr.readAll ⟨last.tokens, _⟩ >>= _ = _
  rw [hrest]
  rfl

end Statement

end Pseudocode
