import Pseudocode.Proofs.Cancellation
import Pseudocode.Proofs.Integers
import Pseudocode.Proofs.Printing.Numbering

/-!
Counting loops. A counting loop does what the block does that assigns one number after the other to
the variable and runs the body after each; so what the body assigns to the variable does not change
the number of passes. Only the other loops use up patience, hence a program without them always
comes to an end.
-/

namespace Pseudocode

theorem Dialogue.runOn_bind {σ α β : Type} (host : Host σ) (d : Dialogue α) (f : α → Dialogue β)
    (s : σ) : (d >>= f).runOn host s = (f (d.runOn host s).1).runOn host (d.runOn host s).2 := by
  induction d generalizing s with
  | done a => rfl
  | check next ih | ask prompt next ih | tell text next ih => exact ih _ _

/-! ### Unrolling -/

namespace Action

theorem andThen_assoc (first second third : Action) :
    (first.andThen second).andThen third = first.andThen (second.andThen third) := by
  funext scope
  show (first scope >>= _) >>= _ = first scope >>= _
  rw [Dialogue.bind_assoc]
  congr 1
  funext ⟨reason?, scope⟩
  cases reason? <;> rfl

theorem unlessCanceled_andThen (first second : Action) :
    (unlessCanceled first).andThen second = unlessCanceled (first.andThen second) := by
  funext scope
  refine congrArg Dialogue.check (funext fun canceled => ?_)
  cases canceled <;> rfl

end Action

namespace Statement

theorem runAll_append (patience : Nat) (statements statements' : List Statement) :
    runAll patience (statements ++ statements') =
      (runAll patience statements).andThen (runAll patience statements') := by
  induction statements with
  | nil => rfl
  | cons statement statements ih =>
      rw [List.cons_append, runAll, ih, runAll, Action.andThen_assoc]

/-- One pass of a counting loop as a block. -/
def pass (line : Nat) (name : String) (body : List Statement) (i : Int) : List Statement :=
  .assign line name (.number (.ofInt i)) :: body

/-- The passes of a counting loop one after the other, as one block. -/
def unrolled (line : Nat) (name : String) (body : List Statement) (first last : Int) :
    List Statement :=
  (List.range (last + 1 - first).toNat).flatMap fun k : Nat => pass line name body (first + k)

theorem runAll_pass (patience line : Nat) (name : String) (body : List Statement) (i : Int) :
    runAll patience (pass line name body i) =
      Action.unlessCanceled
        ((Action.assign name (.number (.ofInt i))).andThen (runAll patience body)) :=
  Action.unlessCanceled_andThen _ _

theorem count_eq_runAll (patience line : Nat) (name : String) (body : List Statement)
    (passes : Nat) (i : Int) :
    Action.count name (runAll patience body) passes i =
      runAll patience
        ((List.range passes).flatMap fun k : Nat => pass line name body (i + k)) := by
  induction passes generalizing i with
  | zero => rfl
  | succ passes ih =>
      -- The passes after the first one are those from the next number on.
      have hshift (k : Nat) : i + 1 + (k : Int) = i + (k + 1 : Nat) := by omega
      rw [List.range_succ_eq_map, List.flatMap_cons, List.flatMap_map, runAll_append, runAll_pass,
        Action.unlessCanceled_andThen, Action.andThen_assoc, Action.count, ih]
      simp only [hshift, Nat.cast_zero, Int.add_zero]

end Statement

/-! ### Bounds -/

section

variable {σ : Type} (host : Host σ)

namespace Statement

/-- A bound of a counting loop: what is evaluated once and then checked. -/
def boundOn (scope : Scope) (e : Expr) (s : σ) : Except Cause Int × σ :=
  match (e.eval scope).run.runOn host s with
  | (.error cause, s) => (.error cause, s)
  | (.ok v, s) => (v.asBound, s)

/-- The bounds of a counting loop, the first one before the last one. -/
def boundsOn (scope : Scope) (first last : Expr) (s : σ) : Except Cause (Int × Int) × σ :=
  match boundOn host scope first s with
  | (.error cause, s) => (.error cause, s)
  | (.ok a, s) =>
    match boundOn host scope last s with
    | (.error cause, s) => (.error cause, s)
    | (.ok b, s) => (.ok (a, b), s)

theorem runOn_bound (scope : Scope) (e : Expr) (s : σ) :
    (e.bound scope).run.runOn host s = boundOn host scope e s := by
  refine (Dialogue.runOn_bind host (e.eval scope).run _ s).trans ?_
  rw [boundOn]
  cases (e.eval scope).run.runOn host s with
  | mk result s => cases result <;> rfl

theorem runOn_evaluate {α : Type} (line : Nat) (evaluation : Scope → Evaluation α)
    (next : α → Action) (scope : Scope) (s : σ) :
    (Action.evaluate line evaluation next scope).runOn host s =
      match (evaluation scope).run.runOn host s with
      | (.error cause, s) => ((some (.fault ⟨line, cause⟩), scope), s)
      | (.ok a, s) => (next a scope).runOn host s := by
  refine (Dialogue.runOn_bind host (evaluation scope).run _ s).trans ?_
  cases (evaluation scope).run.runOn host s with
  | mk result s => cases result <;> rfl

/-- A counting loop gets its bounds, and then does what its passes do one after the other. -/
theorem runOn_count {s : σ} (h : (host.check s).1 = false) (patience line : Nat) (name : String)
    (first last : Expr) (body : List Statement) (scope : Scope) :
    (run patience (.count line name first last body) scope).runOn host s =
      match boundsOn host scope first last (host.check s).2 with
      | (.error cause, s) => ((some (.fault ⟨line, cause⟩), scope), s)
      | (.ok (a, b), s) => (runAll patience (unrolled line name body a b) scope).runOn host s := by
  show (if (host.check s).1 then _ else _ : Dialogue _).runOn host _ = _
  rw [if_neg (by simp [h]), runOn_evaluate, runOn_bound, boundsOn]
  cases boundOn host scope first (host.check s).2 with
  | mk result s =>
      cases result with
      | error cause => rfl
      | ok a =>
          dsimp only
          rw [runOn_evaluate, runOn_bound]
          cases boundOn host scope last s with
          | mk result s =>
              cases result with
              | error cause => rfl
              | ok b => exact congrArg (·.runOn host s) (congrFun (count_eq_runAll ..) scope)

end Statement

end

/-! ### Termination -/

namespace Dialogue

variable {σ α : Type} {cut : α → Prop} {d : Dialogue α}

/-- A dialogue that endures any patience is never cut off. -/
theorem not_cut_of_endures (h : ∀ n, d.Endures cut n) (host : Host σ) (s : σ) :
    ¬cut (d.runOn host s).1 := by
  induction d generalizing s with
  | done a => exact fun ha => Nat.one_ne_zero (h 1 ha)
  | check next ih => exact ih _ (fun n => h (n + 1) _) _
  | ask prompt next ih => exact ih _ (fun n => h n _) _
  | tell text next ih => exact ih () h _

end Dialogue

namespace Statement

/-- Whether the statement is a loop that no count bounds. -/
def isIterate : Statement → Bool
  | iterate .. => true
  | _ => false

/-- Whether none of some statements, nor of those in them, is a loop that no count bounds. -/
def Counted (statements : List Statement) : Prop :=
  ∀ statement ∈ withInnerAll statements, statement.isIterate = false

mutual

theorem run_of_counted (patience patience' : Nat) : ∀ {statement : Statement},
    (∀ inner ∈ statement.withInner, inner.isIterate = false) →
      run patience statement = run patience' statement
  | .output .., _ | .assign .., _ => rfl
  | .input _ (.var _), _ | .input _ (.prompt _), _ => rfl
  | .choose line branches otherwise, h => by
      have hinner := List.forall_mem_append.mp (List.forall_mem_cons.mp h).2
      rw [run, run, runAll_of_counted patience patience' hinner.2,
        runBranches_of_counted patience patience' hinner.1]
  | .count line name first last body, h => by
      rw [run, run, runAll_of_counted patience patience' (List.forall_mem_cons.mp h).2]
  | .iterate .., h => nomatch (List.forall_mem_cons.mp h).1

theorem runAll_of_counted (patience patience' : Nat) : ∀ {statements : List Statement},
    Counted statements → runAll patience statements = runAll patience' statements
  | [], _ => rfl
  | statement :: statements, h => by
      have hinner := List.forall_mem_append.mp h
      rw [runAll, runAll, run_of_counted patience patience' hinner.1,
        runAll_of_counted patience patience' hinner.2]

theorem runBranches_of_counted (patience patience' : Nat) {line : Nat} {otherwise : Action} :
    ∀ {branches : List (Expr × List Statement)},
      (∀ inner ∈ innerOfBranches branches, inner.isIterate = false) →
        runBranches patience line otherwise branches = runBranches patience' line otherwise branches
  | [], _ => rfl
  | (condition, body) :: branches, h => by
      have hinner := List.forall_mem_append.mp h
      rw [runBranches, runBranches, runAll_of_counted patience patience' hinner.1,
        runBranches_of_counted patience patience' hinner.2]

end

/-- Statements without loops that no count bounds come to an end of their own, the same one with
each patience. -/
theorem runAll_ends {statements : List Statement} (h : Counted statements) {σ : Type}
    (host : Host σ) (scope : Scope) (s : σ) :
    ∃ result s', result.1 ≠ some .exhausted ∧
      ∀ patience, (runAll patience statements scope).runOn host s = (result, s') := by
  -- The run without patience is also the one with any other, and so it endures all of them.
  have hendures (n : Nat) : (runAll 0 statements).Endures n := by
    rw [runAll_of_counted 0 n h]
    exact runAll_of_closed (Action.closed_endures n) statements
  refine ⟨((runAll 0 statements scope).runOn host s).1, ((runAll 0 statements scope).runOn host s).2,
    Dialogue.not_cut_of_endures (fun n => hendures n scope) host s, fun patience => ?_⟩
  rw [runAll_of_counted patience 0 h]

end Statement

namespace Interpreter

theorem script_ends {source : String} {program : List Statement}
    (hprogram : Program.ofSource source = .ok program) (h : Statement.Counted program) {σ : Type}
    (host : Host σ) (s : σ) :
    ∃ ending s', ending ≠ .exhausted ∧
      ∀ patience, (script patience source).runOn host s = (ending, s') := by
  obtain ⟨⟨reason?, scope⟩, s', hreason, hrun⟩ := Statement.runAll_ends h host [] s
  have hscript (patience : Nat) : (script patience source).runOn host s =
      (match reason? with
        | none => .finished summary
        | some reason => .ofStop reason, s') := by
    rw [script, hprogram]
    refine (Dialogue.runOn_bind host _ _ s).trans ?_
    rw [hrun patience]
    cases reason? <;> rfl
  refine ⟨_, s', ?_, hscript⟩
  cases reason? with
  | none => exact Ending.noConfusion
  | some reason => exact Ending.ofStop_ne_exhausted fun h => hreason (congrArg some h)

end Interpreter

namespace Statement

/-- A counting loop runs as its passes do that stand one after the other. It evaluates and checks
its first bound and then its last one, with no other call, and a bound that is not a whole number
below the limit ends the run before any pass; each number that it assigns is the whole number itself.
So statements with counting loops only always come to an end of their own. -/
theorem count_runs_as_unrolled {σ : Type} (host : Host σ) {s : σ} (h : (host.check s).1 = false)
    (patience line : Nat) (name : String) (first last : Expr) (body : List Statement)
    (scope : Scope) :
    ((run patience (.count line name first last body) scope).runOn host s =
      match boundsOn host scope first last (host.check s).2 with
      | (.error cause, s) => ((some (.fault ⟨line, cause⟩), scope), s)
      | (.ok (a, b), s) => (runAll patience (unrolled line name body a b) scope).runOn host s) ∧
    (∀ a b, b < a → unrolled line name body a b = []) ∧
    (∀ (v : Value) (i : Int), v.asBound = .ok i ↔
      ∃ n, v = .number n ∧ n.toRat? = some (i : Rat) ∧ i.natAbs < 2 ^ 53) ∧
    (∀ v : Value, (∃ cause, v.asBound = .error cause) ↔
      v.kind ≠ .number ∨ v = .number .nan ∨ (∃ negative, v = .number (.infinite negative)) ∨
        ∃ n q, v = .number n ∧ n.toRat? = some q ∧ (q.den ≠ 1 ∨ 2 ^ 53 ≤ |q|)) ∧
    (∀ i : Int, i.natAbs < 2 ^ 53 → (Binary64.ofInt i).toRat? = some (i : Rat)) ∧
    (∀ statements, Counted statements → ∀ {τ : Type} (host : Host τ) scope s,
      ∃ result s', result.1 ≠ some .exhausted ∧
        ∀ patience, (runAll patience statements scope).runOn host s = (result, s')) ∧
    (∀ source program, Program.ofSource source = .ok program → Counted program →
      ∀ {τ : Type} (host : Host τ) s, ∃ ending s', ending ≠ .exhausted ∧
        ∀ patience, (Interpreter.script patience source).runOn host s = (ending, s')) := by
  refine ⟨runOn_count host h patience line name first last body scope, fun a b hab => ?_,
    fun v i => Value.asBound_eq_ok_iff, fun v => Value.asBound_eq_error_iff,
    fun i => Binary64.toRat?_ofInt, fun statements hcounted _ => runAll_ends hcounted,
    fun source program hprogram hcounted _ => Interpreter.script_ends hprogram hcounted⟩
  have hpasses : (b + 1 - a).toNat = 0 := by omega
  rw [unrolled, hpasses]
  rfl

/-- A body that changes the variable of its loop. -/
def leap : List Statement :=
  [.output 2 [.var "i"], .assign 3 "i" (.binary .mul (.var "i") (.number (.ofInt 7)))]

/-- A program with such a body. -/
def leaping : String :=
  "loop i from 1 to input(\"last\")\noutput i\ni = i * 7\nend loop"

theorem count_runs_as_unrolled_leap :
    (run 0 (.count 1 "i" (.number (.ofInt 1)) (.input (.text "last")) leap) []).runOn
        (.recording (fun _ => "2") fun _ => false) [] =
      ((none, [("i", .number (.ofInt 14))]),
        [.check, .ask "last", .check, .check, .tell "1", .check, .check, .check, .tell "2",
          .check]) ∧
    ∃ ending calls, ending ≠ .exhausted ∧ ∀ patience,
      Interpreter.recorded leaping (fun _ => "2") (fun _ => false) patience = (ending, calls) := by
  have hlines : Line.ofSource leaping = .ok [
      ⟨1, [.word "loop", .word "i", .word "from", .number (.ofInt 1), .word "to", .word "input",
        .symbol .leftParen, .text "last", .symbol .rightParen]⟩,
      ⟨2, [.word "output", .word "i"]⟩,
      ⟨3, [.word "i", .symbol .eq, .word "i", .symbol .star, .number (.ofInt 7)]⟩,
      ⟨4, [.word "end", .word "loop"]⟩] := by
    decide +kernel
  have hprogram : Program.ofSource leaping =
      .ok [.count 1 "i" (.number (.ofInt 1)) (.input (.text "last")) leap] := by
    rw [Program.ofSource, hlines]
    rfl
  obtain ⟨hrun, -, -, -, -, -, hends⟩ := count_runs_as_unrolled
    (.recording (fun _ => "2") fun _ => false) (s := []) rfl 0 1 "i" (.number (.ofInt 1))
    (.input (.text "last")) leap []
  have hcounted : Counted [.count 1 "i" (.number (.ofInt 1)) (.input (.text "last")) leap] := by
    simp [Counted, withInnerAll, withInner, leap, isIterate]
  exact ⟨hrun.trans (by decide +kernel), hends leaping _ hprogram hcounted _ []⟩

end Statement

end Pseudocode
