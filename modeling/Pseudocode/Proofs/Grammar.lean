import Pseudocode.Program.Expression

/-!
The grammar of expressions, apart from the reader. From the loosest row to the tightest:

    disjunction := conjunction (`or` conjunction)*
    conjunction := denial (`and` denial)*
    denial      := `not` denial | comparison
    comparison  := sum ((= | != | < | <= | > | >=) sum)*
    sum         := product ((+ | -) product)*
    product     := negation ((* | / | mod | div) negation)*
    negation    := `-` negation | primary
    primary     := number | text | true | false | name | `input` ( disjunction ) | ( disjunction )

A derivation has a depth, the most operands of `not` and `-` and insides of parentheses that are
open at once, and a number of binary operators. Some tokens followed by others derive one
expression at most, whatever their depth.
-/

namespace Pseudocode

/-- The rows of the grammar. -/
inductive Level where
  | disjunction
  | conjunction
  | denial
  | comparison
  | sum
  | product
  | negation
  | primary
  deriving DecidableEq, Repr

namespace Level

/-- The row of the operands. -/
def tighter : Level → Level
  | disjunction => conjunction
  | conjunction => denial
  | denial => comparison
  | comparison => sum
  | sum => product
  | product => negation
  | negation | primary => primary

/-- How tightly a row binds. -/
def rank : Level → Nat
  | disjunction => 0
  | conjunction => 1
  | denial => 2
  | comparison => 3
  | sum => 4
  | product => 5
  | negation => 6
  | primary => 7

/-- Whether the row is `operand (operator operand)*`. -/
def chains : Level → Bool
  | denial | negation | primary => false
  | disjunction | conjunction | comparison | sum | product => true

theorem rank_tighter {level : Level} (h : level ≠ .primary) :
    level.tighter.rank = level.rank + 1 := by
  cases level <;> first | rfl | exact (h rfl).elim

theorem rank_le_tighter (level : Level) : level.rank ≤ level.tighter.rank := by
  cases level <;> decide

theorem chains_ne_primary {level : Level} (h : level.chains = true) : level ≠ .primary := by
  rintro rfl
  cases h

end Level

namespace BinaryOp

/-- The row of the operator. -/
def level : BinaryOp → Level
  | or => .disjunction
  | and => .conjunction
  | eq | notEq | less | lessEq | greater | greaterEq => .comparison
  | add | sub => .sum
  | mul | div | mod | intDiv => .product

def token : BinaryOp → Token
  | add => .symbol .plus
  | sub => .symbol .minus
  | mul => .symbol .star
  | div => .symbol .slash
  | mod => .word "mod"
  | intDiv => .word "div"
  | eq => .symbol .eq
  | notEq => .symbol .notEq
  | less => .symbol .less
  | lessEq => .symbol .lessEq
  | greater => .symbol .greater
  | greaterEq => .symbol .greaterEq
  | and => .word "and"
  | or => .word "or"

theorem chains_level (op : BinaryOp) : op.level.chains = true := by
  cases op <;> rfl

theorem token_injective {op op' : BinaryOp} (h : op.token = op'.token) : op = op' := by
  revert h
  cases op <;> cases op' <;> decide

end BinaryOp

namespace UnaryOp

/-- The row of the operator, which is also the row of its operand. -/
def level : UnaryOp → Level
  | not => .denial
  | neg => .negation

def token : UnaryOp → Token
  | not => .word "not"
  | neg => .symbol .minus

end UnaryOp

/-- Whether a single token makes an expression. -/
inductive Leaf : Token → Expr → Prop
  | number (n : Binary64) : Leaf (.number n) (.number n)
  | text (s : String) : Leaf (.text s) (.text s)
  | yes : Leaf (.word "true") (.truth true)
  | no : Leaf (.word "false") (.truth false)
  | name (name : String) (free : isReserved name = false) : Leaf (.word name) (.var name)

namespace Leaf

variable {token : Token} {e e' : Expr}

theorem unique (h : Leaf token e) (h' : Leaf token e') : e = e' := by
  generalize hsame : token = token' at h'
  cases h with
  | number | text =>
      cases h' <;> cases hsame
      rfl
  | yes | no =>
      cases h' with
      | name _ free =>
          cases hsame
          cases free
      | _ => simp_all
  | name _ free =>
      cases h' with
      | yes | no =>
          cases hsame
          cases free
      | _ => cases hsame <;> rfl

theorem ne_symbol (h : Leaf token e) (symbol : Symbol) : token ≠ .symbol symbol := by
  cases h <;> simp

/-- A reserved word makes no expression, but for the two truth values. -/
theorem ne_word (h : Leaf token e) {word : String} (reserved : isReserved word = true)
    (yes : word ≠ "true") (no : word ≠ "false") : token ≠ .word word := by
  rintro rfl
  cases h with
  | yes => exact yes rfl
  | no => exact no rfl
  | name _ free => cases free.symm.trans reserved

end Leaf

/-- What tokens can be read as: an expression of a row, or the `(operator operand)*` that goes on
after the expression `left`. -/
inductive Phrase where
  | of (level : Level)
  | after (level : Level) (left : Expr)

def Phrase.level : Phrase → Level
  | of level | after level _ => level

/-- Whether the tokens can be read as a phrase, which makes an expression, with a depth and a number
of binary operators. -/
inductive Derives : Phrase → List Token → Expr → Nat → Nat → Prop
  | leaf {token : Token} {e : Expr} (leaf : Leaf token e) : Derives (.of .primary) [token] e 0 0
  | input {tokens : List Token} {prompt : Expr} {depth operators : Nat}
    (inside : Derives (.of .disjunction) tokens prompt depth operators) :
    Derives (.of .primary)
      (.word "input" :: .symbol .leftParen :: (tokens ++ [.symbol .rightParen]))
      (.input prompt) (depth + 1) operators
  | enclosed {tokens : List Token} {e : Expr} {depth operators : Nat}
    (inside : Derives (.of .disjunction) tokens e depth operators) :
    Derives (.of .primary) (.symbol .leftParen :: (tokens ++ [.symbol .rightParen])) e (depth + 1)
      operators
  | negated {tokens : List Token} {e : Expr} {depth operators : Nat}
    (operand : Derives (.of .negation) tokens e depth operators) :
    Derives (.of .negation) (.symbol .minus :: tokens) (.unary .neg e) (depth + 1) operators
  | unsigned {tokens : List Token} {e : Expr} {depth operators : Nat}
    (operand : Derives (.of .primary) tokens e depth operators) :
    Derives (.of .negation) tokens e depth operators
  | denied {tokens : List Token} {e : Expr} {depth operators : Nat}
    (operand : Derives (.of .denial) tokens e depth operators) :
    Derives (.of .denial) (.word "not" :: tokens) (.unary .not e) (depth + 1) operators
  | undenied {tokens : List Token} {e : Expr} {depth operators : Nat}
    (operand : Derives (.of .comparison) tokens e depth operators) :
    Derives (.of .denial) tokens e depth operators
  | chain {level : Level} {tokens tokens' : List Token} {left e : Expr}
    {depth depth' operators operators' : Nat} (chains : level.chains = true)
    (first : Derives (.of level.tighter) tokens left depth operators)
    (others : Derives (.after level left) tokens' e depth' operators') :
    Derives (.of level) (tokens ++ tokens') e (max depth depth') (operators + operators')
  | stop (level : Level) (left : Expr) : Derives (.after level left) [] left 0 0
  | more {op : BinaryOp} {level : Level} {tokens tokens' : List Token} {left right e : Expr}
    {depth depth' operators operators' : Nat} (row : op.level = level)
    (operand : Derives (.of level.tighter) tokens right depth operators)
    (others : Derives (.after level (.binary op left right)) tokens' e depth' operators') :
    Derives (.after level left) (op.token :: (tokens ++ tokens')) e (max depth depth')
      (operators + operators' + 1)

namespace Level

/-- Whether the tokens cannot go on after an expression of the row: they do not start with an
operator of the row or of a tighter one. -/
def Closed (level : Level) (rest : List Token) : Prop :=
  ∀ op : BinaryOp, level.rank ≤ op.level.rank → rest.head? ≠ some op.token

variable {level : Level} {rest : List Token}

theorem Closed.nil (level : Level) : level.Closed [] := by
  rintro op - ⟨⟩

theorem Closed.tighter (closed : level.Closed rest) : level.tighter.Closed rest :=
  fun op h => closed op (Nat.le_trans level.rank_le_tighter h)

/-- No operator goes on after an expression of a tighter row. -/
theorem Closed.operator {op : BinaryOp} (row : op.level = level) (rest : List Token) :
    level.tighter.Closed (op.token :: rest) := by
  subst row
  intro op' h heq
  obtain rfl := BinaryOp.token_injective (Option.some.inj heq)
  rw [rank_tighter (chains_ne_primary op.chains_level)] at h
  omega

theorem closed_of_forall_ne {token : Token} (h : ∀ op : BinaryOp, op.token ≠ token) :
    level.Closed (token :: rest) :=
  fun op _ heq => h op (Option.some.inj heq).symm

theorem closed_rightParen (level : Level) (rest : List Token) :
    level.Closed (.symbol .rightParen :: rest) :=
  closed_of_forall_ne (by rintro ⟨⟩ <;> decide)

end Level

namespace Derives

variable {level : Level} {phrase : Phrase} {tokens tokens' rest rest' : List Token}
  {left e e' : Expr} {depth depth' operators operators' : Nat}

/-- An expression starts with a token; with an operator only if its row is not a tighter one. -/
theorem exists_cons (h : Derives (.of level) tokens e depth operators) :
    ∃ token rest, tokens = token :: rest ∧
      ∀ op : UnaryOp, token = op.token → level.rank ≤ op.level.rank := by
  generalize hphrase : Phrase.of level = phrase at h
  induction h generalizing level with
  | leaf leaf =>
      cases hphrase
      refine ⟨_, _, rfl, ?_⟩
      rintro ⟨⟩ heq
      · exact (leaf.ne_symbol _ heq).elim
      · exact (leaf.ne_word rfl (by decide) (by decide) heq).elim
  | input | enclosed =>
      cases hphrase
      refine ⟨_, _, rfl, ?_⟩
      rintro ⟨⟩ heq <;> simp [UnaryOp.token] at heq
  | negated | denied =>
      cases hphrase
      refine ⟨_, _, rfl, ?_⟩
      rintro ⟨⟩ heq <;> first | exact Nat.le_refl _ | simp [UnaryOp.token] at heq
  | unsigned _ ih | undenied _ ih =>
      cases hphrase
      obtain ⟨token, rest, rfl, hop⟩ := ih rfl
      exact ⟨token, rest, rfl, fun op heq => Nat.le_trans (Level.rank_le_tighter _) (hop op heq)⟩
  | chain _ _ _ ih =>
      cases hphrase
      obtain ⟨token, rest, rfl, hop⟩ := ih rfl
      exact ⟨token, _, rfl, fun op heq => Nat.le_trans (Level.rank_le_tighter _) (hop op heq)⟩
  | stop | more => cases hphrase

/-- An expression of a tighter row does not start with the operator. -/
theorem ne_token_cons (h : Derives (.of level) tokens e depth operators) (op : UnaryOp)
    (tighter : op.level.rank < level.rank) (rest rest' : List Token) :
    tokens ++ rest ≠ op.token :: rest' := by
  obtain ⟨token, others, rfl, hop⟩ := h.exists_cons
  intro heq
  have := hop op (List.cons.inj heq).1
  omega

/-- What goes on after an expression starts with an operator of the row, if there is any of it. -/
theorem closed_tighter (h : Derives (.after level left) tokens e depth operators)
    (closed : level.Closed rest) : level.tighter.Closed (tokens ++ rest) := by
  cases h with
  | stop => exact closed.tighter
  | more row => exact .operator row _

/-- Tokens that nothing of the row can go on after are read in one way at most. -/
theorem unique (h : Derives phrase tokens e depth operators)
    (h' : Derives phrase tokens' e' depth' operators')
    (heq : tokens ++ rest = tokens' ++ rest') (closed : phrase.level.Closed rest)
    (closed' : phrase.level.Closed rest') : tokens = tokens' ∧ rest = rest' ∧ e = e' := by
  induction h generalizing tokens' e' depth' operators' rest rest' with
  | leaf leaf =>
      cases h' with
      | leaf leaf' =>
          obtain ⟨rfl, rfl⟩ := List.cons.inj heq
          exact ⟨rfl, rfl, leaf.unique leaf'⟩
      | input => exact (leaf.ne_word rfl (by decide) (by decide) (List.cons.inj heq).1).elim
      | enclosed => exact (leaf.ne_symbol _ (List.cons.inj heq).1).elim
      | chain chains => cases chains
  | input _ ih =>
      cases h' with
      | leaf leaf =>
          exact (leaf.ne_word rfl (by decide) (by decide) (List.cons.inj heq).1.symm).elim
      | input inside =>
          simp only [List.cons_append, List.append_assoc, List.nil_append, List.cons.injEq,
            true_and] at heq
          obtain ⟨rfl, hrest, rfl⟩ := ih inside heq (Level.closed_rightParen _ _)
            (Level.closed_rightParen _ _)
          exact ⟨rfl, (List.cons.inj hrest).2, rfl⟩
      | enclosed => cases (List.cons.inj heq).1
      | chain chains => cases chains
  | enclosed _ ih =>
      cases h' with
      | leaf leaf => exact (leaf.ne_symbol _ (List.cons.inj heq).1.symm).elim
      | input => cases (List.cons.inj heq).1
      | enclosed inside =>
          simp only [List.cons_append, List.append_assoc, List.nil_append, List.cons.injEq,
            true_and] at heq
          obtain ⟨rfl, hrest, rfl⟩ := ih inside heq (Level.closed_rightParen _ _)
            (Level.closed_rightParen _ _)
          exact ⟨rfl, (List.cons.inj hrest).2, rfl⟩
      | chain chains => cases chains
  | negated _ ih =>
      cases h' with
      | negated operand =>
          obtain ⟨rfl, hrest, rfl⟩ := ih operand (List.cons.inj heq).2 closed closed'
          exact ⟨rfl, hrest, rfl⟩
      | unsigned operand =>
          exact (operand.ne_token_cons .neg (by decide) _ _ heq.symm).elim
      | chain chains => cases chains
  | unsigned operand ih =>
      cases h' with
      | negated => exact (operand.ne_token_cons .neg (by decide) _ _ heq).elim
      | unsigned operand' => exact ih operand' heq closed.tighter closed'.tighter
      | chain chains => cases chains
  | denied _ ih =>
      cases h' with
      | denied operand =>
          obtain ⟨rfl, hrest, rfl⟩ := ih operand (List.cons.inj heq).2 closed closed'
          exact ⟨rfl, hrest, rfl⟩
      | undenied operand =>
          exact (operand.ne_token_cons .not (by decide) _ _ heq.symm).elim
      | chain chains => cases chains
  | undenied operand ih =>
      cases h' with
      | denied => exact (operand.ne_token_cons .not (by decide) _ _ heq).elim
      | undenied operand' => exact ih operand' heq closed.tighter closed'.tighter
      | chain chains => cases chains
  | chain chains first others ihFirst ihOthers =>
      cases h' with
      | chain _ first' others' =>
          -- After either first operand there is an operator of the row or nothing that could go on.
          rw [List.append_assoc, List.append_assoc] at heq
          obtain ⟨rfl, hrest, rfl⟩ := ihFirst first' heq (others.closed_tighter closed)
            (others'.closed_tighter closed')
          obtain ⟨rfl, hrest, rfl⟩ := ihOthers others' hrest closed closed'
          exact ⟨rfl, hrest, rfl⟩
      | _ => cases chains
  | stop level left =>
      cases h' with
      | stop => exact ⟨rfl, heq, rfl⟩
      -- One derivation ends where the other one goes on with an operator: `rest` is not closed.
      | more row =>
          refine (closed _ (Nat.le_of_eq (congrArg Level.rank row).symm) ?_).elim
          rw [List.nil_append] at heq
          rw [heq]
          rfl
  | more row operand others ihOperand ihOthers =>
      cases h' with
      | stop =>
          refine (closed' _ (Nat.le_of_eq (congrArg Level.rank row).symm) ?_).elim
          rw [List.nil_append] at heq
          rw [← heq]
          rfl
      | more row' operand' others' =>
          rw [List.cons_append, List.cons_append, List.cons.injEq, List.append_assoc,
            List.append_assoc] at heq
          obtain ⟨htoken, heq⟩ := heq
          obtain rfl := BinaryOp.token_injective htoken
          obtain ⟨rfl, hrest, rfl⟩ := ihOperand operand' heq (others.closed_tighter closed)
            (others'.closed_tighter closed')
          obtain ⟨rfl, hrest, rfl⟩ := ihOthers others' hrest closed closed'
          exact ⟨rfl, hrest, rfl⟩

end Derives

end Pseudocode
