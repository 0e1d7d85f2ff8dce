import Pseudocode.Proofs.Grammar

/-!
The reader of expressions against the grammar. What it reads is derived, and what is derived within
the two limits is read, up to where nothing of the row can go on. So the reader accepts exactly what
the grammar derives within the limits.
-/

namespace Pseudocode

theorem bind_eq_ok {ε α β : Type} {x : Except ε α} {f : α → Except ε β} {b : β} :
    x >>= f = .ok b ↔ ∃ a, x = .ok a ∧ f a = .ok b := by
  cases x with
  | error => simp [bind, Except.bind]
  | ok a => simp [bind, Except.bind]

@[simp] theorem ok_bind {ε α β : Type} (a : α) (f : α → Except ε β) :
    (.ok a : Except ε α) >>= f = f a := rfl

namespace Expr

/-- The readers for what stands further in where `room` more levels can be opened. -/
def Inner.beneath : Nat → Inner
  | 0 => beyond
  | room + 1 => withRoom room

theorem Inner.withRoom_eq (room : Nat) : withRoom room = around (beneath room) := by
  cases room <;> rfl

end Expr

namespace Level

/-- The operator of the row that a token is, as the reader has it. -/
def op? : Level → Token → Option BinaryOp
  | disjunction => Expr.disjunctionOp?
  | conjunction => Expr.conjunctionOp?
  | comparison => Expr.comparisonOp?
  | sum => Expr.sumOp?
  | product => Expr.productOp?
  | denial | negation | primary => fun _ => none

/-- The reader of the row. -/
def reader (inner : Expr.Inner) : Level → Reader Expr
  | disjunction => Expr.disjunction inner
  | conjunction => Expr.conjunction inner
  | denial => Expr.denial inner
  | comparison => Expr.comparison inner
  | sum => Expr.sum inner
  | product => Expr.product inner
  | negation => Expr.negation inner
  | primary => Expr.primary inner

variable {level : Level} {token : Token} {op : BinaryOp}

theorem reader_of_chains (inner : Expr.Inner) (h : level.chains = true) :
    level.reader inner = Expr.chain level.op? (level.tighter.reader inner) := by
  cases level <;> first | rfl | cases h

theorem op?_eq_some_iff : level.op? token = some op ↔ op.level = level ∧ op.token = token := by
  constructor
  · intro h
    cases level with
    | denial | negation | primary => cases h
    | disjunction =>
        simp only [op?, Expr.disjunctionOp?] at h
        split at h <;> cases h
        exact ⟨rfl, rfl⟩
    | conjunction =>
        simp only [op?, Expr.conjunctionOp?] at h
        split at h <;> cases h
        exact ⟨rfl, rfl⟩
    | comparison =>
        simp only [op?, Expr.comparisonOp?] at h
        split at h <;> cases h <;> exact ⟨rfl, rfl⟩
    | sum =>
        simp only [op?, Expr.sumOp?] at h
        split at h <;> cases h <;> exact ⟨rfl, rfl⟩
    | product =>
        simp only [op?, Expr.productOp?] at h
        split at h <;> cases h <;> exact ⟨rfl, rfl⟩
  · rintro ⟨rfl, rfl⟩
    cases op <;> rfl

/-- No token that goes on after an expression of the row is there where the row is closed. -/
theorem Closed.op?_eq_none {rest : List Token} (closed : level.Closed (token :: rest)) :
    level.op? token = none := by
  refine Option.eq_none_iff_forall_ne_some.mpr fun op hop => ?_
  obtain ⟨row, rfl⟩ := op?_eq_some_iff.mp hop
  exact closed op (Nat.le_of_eq (congrArg rank row).symm) rfl

end Level

/-! ### What is read is derived -/

/-- Whether the tokens between two places are a phrase that makes `e`, with a depth below `bound`
and with as many operators as are counted between the two. -/
def Phrase.Spans (phrase : Phrase) (bound : Nat) (c : Cursor) (e : Expr) (c' : Cursor) : Prop :=
  ∃ tokens depth operators, Derives phrase tokens e depth operators ∧ depth < bound ∧
    c.rest = tokens ++ c'.rest ∧ c'.operators = c.operators + operators ∧
    (c.operators ≤ maxOperators → c'.operators ≤ maxOperators)

/-- Whether the reader reads nothing but such phrases. -/
def Phrase.Covers (phrase : Phrase) (bound : Nat) (reader : Reader Expr) : Prop :=
  ∀ {c e c'}, reader c = .ok (e, c') → phrase.Spans bound c e c'

section

variable {bound : Nat} {level : Level} {inner : Expr.Inner} {operand : Reader Expr}
  {phrase phrase' : Phrase} {token : Token} {rest : List Token} {e e' : Expr} {c c' : Cursor}

open Pseudocode.Expr

/-- An operator in front makes a phrase one level further out. -/
theorem Phrase.Spans.behind (spans : phrase.Spans bound { c with rest } e c')
    (hrest : c.rest = token :: rest)
    (derives : ∀ {tokens depth operators}, Derives phrase tokens e depth operators →
      Derives phrase' (token :: tokens) e' (depth + 1) operators) :
    phrase'.Spans (bound + 1) c e' c' := by
  obtain ⟨tokens, depth, operators, hderives, hdepth, hspan, hoperators, hlimit⟩ := spans
  refine ⟨_, _, _, derives hderives, Nat.succ_lt_succ hdepth, ?_, hoperators, hlimit⟩
  rw [hrest, List.cons_append]
  exact congrArg _ hspan

theorem Phrase.Spans.mono (spans : phrase.Spans bound c e c')
    (derives : ∀ {tokens depth operators}, Derives phrase tokens e depth operators →
      Derives phrase' tokens e depth operators) : phrase'.Spans bound c e c' := by
  obtain ⟨tokens, depth, operators, hderives, hspan⟩ := spans
  exact ⟨tokens, depth, operators, derives hderives, hspan⟩

theorem countOperator_eq_ok {c c' : Cursor} (h : c.countOperator = .ok c') :
    c'.rest = c.rest ∧ c'.operators = c.operators + 1 ∧ c'.operators ≤ maxOperators := by
  unfold Cursor.countOperator at h
  split at h
  · rename_i hlimit
    cases h
    exact ⟨rfl, rfl, hlimit⟩
  · cases h

theorem covers_chainFrom (covers : (Phrase.of level.tighter).Covers bound operand)
    (positive : 0 < bound) (passes : Nat) (left : Expr) :
    (Phrase.after level left).Covers bound (chainFrom level.op? operand passes left) := by
  intro c e c' h
  -- Without passes the reader stops too, so what it reads is derived in any case.
  induction passes generalizing left c with
  | zero =>
      cases h
      exact ⟨[], 0, 0, .stop .., positive, rfl, rfl, id⟩
  | succ passes ih =>
      rw [chainFrom] at h
      split at h
      · cases h
        exact ⟨[], 0, 0, .stop .., positive, rfl, rfl, id⟩
      rename_i token rest hrest
      split at h
      · cases h
        exact ⟨[], 0, 0, .stop .., positive, rfl, rfl, id⟩
      rename_i op hop
      obtain ⟨row, rfl⟩ := Level.op?_eq_some_iff.mp hop
      obtain ⟨⟨right, c₁⟩, hoperand, h⟩ := bind_eq_ok.mp h
      obtain ⟨c₂, hcount, h⟩ := bind_eq_ok.mp h
      obtain ⟨tokens, depth, operators, hright, hdepth, hspan, hoperators, hlimit⟩ :=
        covers hoperand
      obtain ⟨tokens', depth', operators', hothers, hdepth', hspan', hoperators', hlimit'⟩ :=
        ih _ h
      obtain ⟨hrest₂, hoperators₂, hlimit₂⟩ := countOperator_eq_ok hcount
      refine ⟨_, _, _, .more row hright hothers, Nat.max_lt.mpr ⟨hdepth, hdepth'⟩, ?_, ?_, ?_⟩
      · rw [hrest, show rest = _ from hspan, ← hrest₂, hspan', List.cons_append, List.append_assoc]
      · have hfirst : c₁.operators = c.operators + operators := hoperators
        omega
      · exact fun _ => hlimit' hlimit₂

theorem covers_chain (level : Level) (chains : level.chains = true)
    (covers : (Phrase.of level.tighter).Covers bound (level.tighter.reader inner)) :
    (Phrase.of level).Covers bound (level.reader inner) := by
  intro c e c' h
  rw [Level.reader_of_chains inner chains] at h
  obtain ⟨⟨left, c₁⟩, hleft, h⟩ := bind_eq_ok.mp h
  obtain ⟨tokens, depth, operators, hfirst, hdepth, hspan, hoperators, hlimit⟩ := covers hleft
  obtain ⟨tokens', depth', operators', hothers, hdepth', hspan', hoperators', hlimit'⟩ :=
    covers_chainFrom covers (by omega) _ _ h
  refine ⟨_, _, _, .chain chains hfirst hothers, Nat.max_lt.mpr ⟨hdepth, hdepth'⟩, ?_, ?_, ?_⟩
  · rw [hspan, hspan', List.append_assoc]
  · omega
  · exact fun hbefore => hlimit' (hlimit hbefore)

/-- Whether the readers of what stands further in read nothing but what is derived. -/
structure Expr.Inner.Covers (bound : Nat) (inner : Inner) : Prop where
  negated : (Phrase.of .negation).Covers bound inner.negated
  denied : (Phrase.of .denial).Covers bound inner.denied
  enclosed : (Phrase.of .disjunction).Covers bound inner.enclosed

theorem spans_upToParen (opening : List Token) (covers : inner.Covers bound)
    (hrest : c.rest = opening ++ rest) (h : upToParen inner { c with rest } = .ok (e, c'))
    (derives : ∀ {tokens depth operators}, Derives (.of .disjunction) tokens e depth operators →
      Derives phrase (opening ++ (tokens ++ [.symbol .rightParen])) e' (depth + 1) operators) :
    phrase.Spans (bound + 1) c e' c' := by
  obtain ⟨⟨e, c₁⟩, hinside, h⟩ := bind_eq_ok.mp h
  obtain ⟨tokens, depth, operators, hderives, hdepth, hspan, hoperators, hlimit⟩ :=
    covers.enclosed hinside
  dsimp only at h hspan
  split at h
  · rename_i rest' hparen
    cases h
    refine ⟨_, _, _, derives hderives, Nat.succ_lt_succ hdepth, ?_, hoperators, hlimit⟩
    rw [hrest, hspan, hparen, List.append_assoc, List.append_assoc, List.singleton_append]
  · cases h

theorem covers_primary (covers : inner.Covers bound) :
    (Phrase.of .primary).Covers (bound + 1) (primary inner) := by
  intro c e c' h
  obtain ⟨rest, operators⟩ := c
  unfold primary at h
  split at h
  · cases h
  · rename_i n rest hrest
    cases h
    exact ⟨_, _, _, .leaf (.number n), Nat.succ_pos _, hrest, rfl, id⟩
  · rename_i s rest hrest
    cases h
    exact ⟨_, _, _, .leaf (.text s), Nat.succ_pos _, hrest, rfl, id⟩
  · rename_i rest hrest
    cases h
    exact ⟨_, _, _, .leaf .yes, Nat.succ_pos _, hrest, rfl, id⟩
  · rename_i rest hrest
    cases h
    exact ⟨_, _, _, .leaf .no, Nat.succ_pos _, hrest, rfl, id⟩
  · rename_i rest hrest
    obtain ⟨⟨e, c₁⟩, hinside, h⟩ := bind_eq_ok.mp h
    cases h
    exact spans_upToParen [.word "input", .symbol .leftParen] covers hrest hinside .input
  · cases h
  · rename_i w rest _ _ _ _ hrest
    split at h
    · cases h
    · rename_i free
      cases h
      exact ⟨_, _, _, .leaf (.name w (by simpa using free)), Nat.succ_pos _, hrest, rfl, id⟩
  · rename_i rest hrest
    exact spans_upToParen [.symbol .leftParen] covers hrest h .enclosed
  · cases h

theorem covers_negation (covers : inner.Covers bound) :
    (Phrase.of .negation).Covers (bound + 1) (negation inner) := by
  intro c e c' h
  unfold negation at h
  split at h
  · rename_i rest hrest
    obtain ⟨⟨e, c₁⟩, hoperand, h⟩ := bind_eq_ok.mp h
    cases h
    exact (covers.negated hoperand).behind hrest .negated
  · exact (covers_primary covers h).mono .unsigned

theorem covers_comparison (covers : inner.Covers bound) :
    (Phrase.of .comparison).Covers (bound + 1) (comparison inner) :=
  covers_chain .comparison rfl <| covers_chain .sum rfl <| covers_chain .product rfl <|
    covers_negation covers

theorem covers_denial (covers : inner.Covers bound) :
    (Phrase.of .denial).Covers (bound + 1) (denial inner) := by
  intro c e c' h
  unfold denial at h
  split at h
  · rename_i rest hrest
    obtain ⟨⟨e, c₁⟩, hoperand, h⟩ := bind_eq_ok.mp h
    cases h
    exact (covers.denied hoperand).behind hrest .denied
  · exact (covers_comparison covers h).mono .undenied

theorem covers_disjunction (covers : inner.Covers bound) :
    (Phrase.of .disjunction).Covers (bound + 1) (disjunction inner) :=
  covers_chain .disjunction rfl <| covers_chain .conjunction rfl <| covers_denial covers

theorem Expr.Inner.Covers.around (covers : inner.Covers bound) :
    (Inner.around inner).Covers (bound + 1) :=
  ⟨covers_negation covers, covers_denial covers, covers_disjunction covers⟩

theorem covers_beneath (room : Nat) : (Inner.beneath room).Covers room := by
  induction room with
  | zero =>
      constructor
      all_goals
        intro c e c' h
        cases h
  | succ room ih =>
      rw [Inner.beneath, Inner.withRoom_eq]
      exact ih.around

theorem read_eq : Expr.read = Level.disjunction.reader (Inner.beneath maxNesting) := by
  unfold Expr.read
  rw [Inner.withRoom_eq]
  rfl

theorem covers_read : (Phrase.of .disjunction).Covers (maxNesting + 1) Expr.read := by
  rw [read_eq]
  exact covers_disjunction (covers_beneath maxNesting)

end

/-! ### What is derived is read -/

section

variable {phrase : Phrase} {level : Level} {tokens rest : List Token} {e : Expr}
  {depth operators : Nat}

open Pseudocode.Expr

/-- Whether a phrase is read where `room` more levels can be opened: up to where nothing of its row
can go on, and if the limit of the operators is kept. -/
def Phrase.ReadAs (tokens : List Token) (e : Expr) (operators : Nat) (room : Nat) : Phrase → Prop
  | of level => ∀ {before rest}, before + operators ≤ maxOperators → level.Closed rest →
      level.reader (Inner.beneath room) ⟨tokens ++ rest, before⟩ =
        .ok (e, ⟨rest, before + operators⟩)
  | after level left => ∀ {before rest passes}, before + operators ≤ maxOperators →
      level.Closed rest → tokens.length + rest.length ≤ passes →
      chainFrom level.op? (level.tighter.reader (Inner.beneath room)) passes left
        ⟨tokens ++ rest, before⟩ = .ok (e, ⟨rest, before + operators⟩)

theorem chainFrom_of_closed {operand : Reader Expr} (closed : level.Closed rest) (passes : Nat)
    (left : Expr) (before : Nat) :
    chainFrom level.op? operand passes left ⟨rest, before⟩ = .ok (left, ⟨rest, before⟩) := by
  cases passes with
  | zero => rfl
  | succ passes =>
      cases rest with
      | nil => rfl
      | cons token rest =>
          rw [chainFrom]
          simp only [closed.op?_eq_none]

theorem primary_of_leaf {token : Token} (leaf : Leaf token e) (inner : Inner) (rest : List Token)
    (before : Nat) : primary inner ⟨token :: rest, before⟩ = .ok (e, ⟨rest, before⟩) := by
  cases leaf with
  | number | text | yes | no => rfl
  | name name free =>
      have htrue : name ≠ "true" := by
        rintro rfl
        cases free
      have hfalse : name ≠ "false" := by
        rintro rfl
        cases free
      have hinput : name ≠ "input" := by
        rintro rfl
        cases free
      simp_all [primary]

theorem negation_of_ne (inner : Inner) {c : Cursor}
    (h : ∀ rest, c.rest ≠ UnaryOp.neg.token :: rest) : negation inner c = primary inner c := by
  unfold negation
  split
  · rename_i rest hrest
    exact (h rest hrest).elim
  · rfl

theorem denial_of_ne (inner : Inner) {c : Cursor}
    (h : ∀ rest, c.rest ≠ UnaryOp.not.token :: rest) : denial inner c = comparison inner c := by
  unfold denial
  split
  · rename_i rest hrest
    exact (h rest hrest).elim
  · rfl

theorem around_beneath (room : Nat) :
    Inner.beneath (room + 1) = Inner.around (Inner.beneath room) := by
  rw [Inner.beneath, Inner.withRoom_eq]

/-- The inside of parentheses is read one level further in. -/
theorem upToParen_beneath {room before : Nat}
    (inside : (Phrase.of .disjunction).ReadAs tokens e operators room)
    (limit : before + operators ≤ maxOperators) (rest : List Token) :
    upToParen (Inner.beneath (room + 1)) ⟨tokens ++ .symbol .rightParen :: rest, before⟩ =
      .ok (e, ⟨rest, before + operators⟩) := by
  have hinside := inside limit (Level.closed_rightParen .disjunction rest)
  unfold upToParen
  rw [around_beneath]
  show (disjunction (Inner.beneath room) _ >>= _) = _
  rw [show disjunction (Inner.beneath room) _ = _ from hinside]
  rfl

theorem Derives.readAs (h : Derives phrase tokens e depth operators) {room : Nat}
    (within : depth ≤ room) : phrase.ReadAs tokens e operators room := by
  induction h generalizing room with
  | leaf leaf =>
      intro before rest _ _
      exact primary_of_leaf leaf _ _ _
  | input _ ih =>
      obtain ⟨room, rfl⟩ : ∃ r, room = r + 1 := ⟨room - 1, by omega⟩
      intro before rest limit _
      have hinside := upToParen_beneath (ih (Nat.le_of_succ_le_succ within)) limit rest
      simp only [Level.reader, primary, List.cons_append, List.append_assoc, List.nil_append]
      rw [hinside]
      rfl
  | enclosed _ ih =>
      obtain ⟨room, rfl⟩ : ∃ r, room = r + 1 := ⟨room - 1, by omega⟩
      intro before rest limit _
      have hinside := upToParen_beneath (ih (Nat.le_of_succ_le_succ within)) limit rest
      simp only [Level.reader, primary, List.cons_append, List.append_assoc, List.nil_append]
      exact hinside
  | negated _ ih =>
      obtain ⟨room, rfl⟩ : ∃ r, room = r + 1 := ⟨room - 1, by omega⟩
      intro before rest limit closed
      have hoperand := ih (Nat.le_of_succ_le_succ within) limit closed
      rw [around_beneath]
      simp only [Level.reader, negation, List.cons_append]
      show (negation (Inner.beneath room) _ >>= _) = _
      rw [show negation (Inner.beneath room) _ = _ from hoperand]
      rfl
  | unsigned operand ih =>
      intro before rest limit closed
      refine (negation_of_ne _ fun rest' => ?_).trans (ih within limit closed.tighter)
      exact operand.ne_token_cons _ (by decide) rest rest'
  | denied _ ih =>
      obtain ⟨room, rfl⟩ : ∃ r, room = r + 1 := ⟨room - 1, by omega⟩
      intro before rest limit closed
      have hoperand := ih (Nat.le_of_succ_le_succ within) limit closed
      rw [around_beneath]
      simp only [Level.reader, denial, List.cons_append]
      show (denial (Inner.beneath room) _ >>= _) = _
      rw [show denial (Inner.beneath room) _ = _ from hoperand]
      rfl
  | undenied operand ih =>
      intro before rest limit closed
      refine (denial_of_ne _ fun rest' => ?_).trans (ih within limit closed.tighter)
      exact operand.ne_token_cons _ (by decide) rest rest'
  | chain chains first others ihFirst ihOthers =>
      intro before rest limit closed
      have hfirst := ihFirst (Nat.le_trans (Nat.le_max_left _ _) within)
        (show before + _ ≤ maxOperators by omega) (others.closed_tighter closed)
      rw [Level.reader_of_chains _ chains, Expr.chain, List.append_assoc, hfirst]
      rw [ok_bind, ← Nat.add_assoc]
      refine ihOthers (Nat.le_trans (Nat.le_max_right _ _) within) ?_ closed ?_
      · rw [Nat.add_assoc]
        exact limit
      · exact Nat.le_of_eq List.length_append.symm
  | stop level left =>
      intro before rest passes _ closed _
      exact chainFrom_of_closed closed passes left before
  | @more op _ tokens tokens' left right e depth depth' operators operators' row operand others
      ihOperand ihOthers =>
      subst row
      intro before rest passes limit closed enough
      simp only [List.length_cons, List.length_append] at enough
      obtain ⟨passes, rfl⟩ : ∃ n, passes = n + 1 := ⟨passes - 1, by omega⟩
      have hoperand := ihOperand (Nat.le_trans (Nat.le_max_left _ _) within)
        (show before + _ ≤ maxOperators by omega) (others.closed_tighter closed)
      have henough : tokens'.length + rest.length ≤ passes := by omega
      have hothers := ihOthers (Nat.le_trans (Nat.le_max_right _ _) within)
        (show before + operators + 1 + _ ≤ maxOperators by omega) closed henough
      have hcount : before + operators + 1 + operators' =
          before + (operators + operators' + 1) := by omega
      -- The operator is counted after its right operand has been read.
      rw [List.cons_append, List.append_assoc, chainFrom]
      simp only [Level.op?_eq_some_iff.mpr ⟨rfl, rfl⟩, hoperand, ok_bind, Cursor.countOperator]
      rw [if_pos (by omega), ← hcount]
      exact hothers

/-- An expression is read up to where nothing can go on, if both limits are kept. -/
theorem Derives.read (h : Derives (.of .disjunction) tokens e depth operators)
    (within : depth ≤ maxNesting) {before : Nat} (limit : before + operators ≤ maxOperators)
    (closed : Level.disjunction.Closed rest) :
    Expr.read ⟨tokens ++ rest, before⟩ = .ok (e, ⟨rest, before + operators⟩) := by
  rw [read_eq]
  exact h.readAs within limit closed

theorem finish_eq_ok {c : Cursor} : c.finish = .ok () ↔ c.rest = [] := by
  unfold Cursor.finish
  split <;> simp_all

/-- The reader of a whole line accepts exactly what the grammar derives with at most 100 levels open
at once and at most 1024 binary operators, and gives the expression that is derived. There is one
such expression at most, whatever the depth and the number of operators. -/
theorem Expr.readAll_eq_ok_iff_derives (tokens : List Token) :
    (∀ e, readAll (.ofTokens tokens) = .ok e ↔ ∃ depth operators,
      Derives (.of .disjunction) tokens e depth operators ∧ depth ≤ 100 ∧ operators ≤ 1024) ∧
    (∀ e e' depth depth' operators operators',
      Derives (.of .disjunction) tokens e depth operators →
      Derives (.of .disjunction) tokens e' depth' operators' → e = e') := by
  constructor
  · intro e
    constructor
    · intro h
      obtain ⟨⟨e, c⟩, hread, h⟩ := bind_eq_ok.mp h
      obtain ⟨_, hfinish, h⟩ := bind_eq_ok.mp h
      cases h
      obtain ⟨tokens', depth, operators, hderives, hdepth, hspan, hoperators, hlimit⟩ :=
        covers_read hread
      rw [finish_eq_ok.mp hfinish, List.append_nil] at hspan
      have hcount : c.operators ≤ maxOperators := hlimit (Nat.zero_le _)
      obtain rfl : tokens = tokens' := hspan
      rw [hoperators, Cursor.ofTokens, Nat.zero_add] at hcount
      exact ⟨depth, operators, hderives, Nat.le_of_lt_succ hdepth, hcount⟩
    · rintro ⟨depth, operators, hderives, hdepth, hcount⟩
      have hlimit : 0 + operators ≤ maxOperators := by
        rw [Nat.zero_add]
        exact hcount
      have hread := hderives.read hdepth hlimit (.nil _)
      rw [List.append_nil] at hread
      rw [readAll, Cursor.ofTokens, hread]
      rfl
  · intro e e' depth depth' operators operators' h h'
    exact (h.unique h' rfl (.nil _) (.nil _)).2.2

/-- `not A = -(B + C) or input(D)` -/
def mixture : Expr :=
  .binary .or
    (.unary .not (.binary .eq (.var "A") (.unary .neg (.binary .add (.var "B") (.var "C")))))
    (.input (.var "D"))

def mixtureTokens : List Token :=
  [.word "not", .word "A", .symbol .eq, .symbol .minus, .symbol .leftParen, .word "B",
    .symbol .plus, .word "C", .symbol .rightParen, .word "or", .word "input", .symbol .leftParen,
    .word "D", .symbol .rightParen]

theorem Expr.readAll_mixture :
    (∃ depth operators, Derives (.of .disjunction) mixtureTokens mixture depth operators ∧
      depth ≤ 100 ∧ operators ≤ 1024) ∧
    ∀ e depth operators, Derives (.of .disjunction) mixtureTokens e depth operators →
      e = mixture := by
  obtain ⟨accepts, alone⟩ := Expr.readAll_eq_ok_iff_derives mixtureTokens
  have hread : readAll (.ofTokens mixtureTokens) = .ok mixture := by rfl
  obtain ⟨depth, operators, hderives, hlimits⟩ := (accepts mixture).mp hread
  exact ⟨⟨depth, operators, hderives, hlimits⟩, fun e depth' operators' h =>
    alone e mixture depth' depth operators' operators h hderives⟩

end

end Pseudocode
