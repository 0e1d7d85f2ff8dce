import Pseudocode.Interpreter

/-!
What holds of everything that a program does. A property of actions that the ways of making one
action from others keep is a property of what each statement does. Whether the run was canceled is
asked between the evaluations of a statement but never in one, so such a property has to be kept by
evaluations without checks only.
-/

namespace Pseudocode

namespace Dialogue

variable {α β : Type} {d : Dialogue α} {f : α → Dialogue β}

/-- Whether a dialogue never asks whether it was canceled. -/
def Unchecked : Dialogue α → Prop
  | done _ => True
  | check _ => False
  | ask _ next => ∀ answer, (next answer).Unchecked
  | tell _ next => (next ()).Unchecked

theorem Unchecked.bind (h : d.Unchecked) (hf : ∀ a, (f a).Unchecked) : (d >>= f).Unchecked := by
  induction d with
  | done a => exact hf a
  | check next => exact h.elim
  | ask prompt next ih => exact fun answer => ih answer (h answer)
  | tell text next ih => exact ih () h

end Dialogue

namespace Evaluation

variable {α β : Type} {evaluation : Evaluation α} {f : α → Evaluation β}

def Unchecked (evaluation : Evaluation α) : Prop :=
  evaluation.run.Unchecked

theorem unchecked_pure (a : α) : (pure a : Evaluation α).Unchecked := trivial

theorem unchecked_throw (cause : Cause) : (throw cause : Evaluation α).Unchecked := trivial

theorem unchecked_ofExcept (result : Except Cause α) : (ofExcept result).Unchecked := trivial

theorem unchecked_ask (prompt : String) : (ask prompt).Unchecked := fun _ => trivial

theorem Unchecked.bind (h : evaluation.Unchecked) (hf : ∀ a, (f a).Unchecked) :
    (evaluation >>= f).Unchecked := by
  refine Dialogue.Unchecked.bind h fun result => ?_
  cases result with
  | ok a => exact hf a
  | error cause => exact unchecked_throw cause

end Evaluation

namespace Expr

open Evaluation

theorem unchecked_eval (scope : Scope) (e : Expr) : (e.eval scope).Unchecked := by
  induction e with
  | number | text | truth => exact unchecked_pure _
  | var name =>
      unfold eval
      cases scope.get? name with
      | some v => exact unchecked_pure v
      | none => exact unchecked_throw _
  | input prompt ih =>
      exact ih.bind fun _ => (unchecked_ask _).bind fun _ => unchecked_pure _
  | unary op e ih =>
      cases op <;> exact ih.bind fun _ => (unchecked_ofExcept _).bind fun _ => unchecked_pure _
  | binary op a b iha ihb =>
      -- What `and` and `or` do once the value of the first operand is known.
      have hright : ∀ v : Bool, (do
          if v then return .truth (← Evaluation.ofExcept (← b.eval scope).asCondition)
          else return .truth false : Evaluation Value).Unchecked := by
        intro v
        cases v with
        | true => exact ihb.bind fun _ => (unchecked_ofExcept _).bind fun _ => unchecked_pure _
        | false => exact unchecked_pure _
      cases op with
      | and => exact iha.bind fun _ => (unchecked_ofExcept _).bind hright
      | or =>
          refine iha.bind fun _ => (unchecked_ofExcept _).bind fun v => ?_
          cases v with
          | true => exact unchecked_pure _
          | false => exact hright true
      | _ => exact iha.bind fun _ => ihb.bind fun _ => unchecked_ofExcept _

theorem unchecked_condition (scope : Scope) (e : Expr) : (e.condition scope).Unchecked :=
  (e.unchecked_eval scope).bind fun _ => unchecked_ofExcept _

theorem unchecked_bound (scope : Scope) (e : Expr) : (e.bound scope).Unchecked :=
  (e.unchecked_eval scope).bind fun _ => unchecked_ofExcept _

theorem unchecked_line (scope : Scope) (es : List Expr) : (line scope es).Unchecked := by
  induction es with
  | nil => exact unchecked_pure _
  | cons e es ih =>
      cases es with
      | nil => exact (e.unchecked_eval scope).bind fun _ => unchecked_pure _
      | cons e' es =>
          exact (e.unchecked_eval scope).bind fun _ => ih.bind fun _ => unchecked_pure _

end Expr

/-- Whether each way to make an action from others keeps a property. -/
structure Action.Closed (patience : Nat) (P : Action → Prop) : Prop where
  skip : P skip
  andThen : ∀ {first second : Action}, P first → P second → P (first.andThen second)
  unlessCanceled : ∀ {action : Action}, P action → P (unlessCanceled action)
  evaluate : ∀ {α : Type} (line : Nat) {evaluation : Scope → Evaluation α} {next : α → Action},
    (∀ scope, (evaluation scope).Unchecked) → (∀ a, P (next a)) → P (evaluate line evaluation next)
  assign : ∀ (name : String) (value : Value), P (assign name value)
  tell : ∀ text : String, P (tell text)
  ask : ∀ (prompt : String) {next : String → Action}, (∀ answer, P (next answer)) →
    P (ask prompt next)
  iterate : ∀ (line : Nat) {condition : Scope → Evaluation Bool} (stopAt : Bool) {body : Action},
    (∀ scope, (condition scope).Unchecked) → P body →
      P (iterate line condition stopAt body patience)

namespace Action.Closed

variable {patience : Nat} {P : Action → Prop}

theorem count (closed : Closed patience P) (name : String) {body : Action} (h : P body)
    (passes : Nat) (i : Int) : P (count name body passes i) := by
  induction passes generalizing i with
  | zero => exact closed.skip
  | succ passes ih =>
      exact closed.unlessCanceled
        (closed.andThen (closed.assign name _) (closed.andThen h (ih (i + 1))))

end Action.Closed

namespace Statement

variable {patience : Nat} {P : Action → Prop}

mutual

theorem run_of_closed (closed : Action.Closed patience P) :
    ∀ statement : Statement, P (run patience statement)
  | .output line arguments =>
      closed.unlessCanceled (closed.evaluate line (Expr.unchecked_line · arguments) closed.tell)
  | .input _ (.var name) =>
      closed.unlessCanceled (closed.ask name fun _ => closed.assign name _)
  | .input line (.prompt prompt) =>
      closed.unlessCanceled (closed.evaluate line prompt.unchecked_eval fun _ =>
        closed.ask _ fun _ => closed.skip)
  | .assign line name value =>
      closed.unlessCanceled (closed.evaluate line value.unchecked_eval (closed.assign name))
  | .choose line branches otherwise =>
      closed.unlessCanceled
        (runBranches_of_closed closed line (runAll_of_closed closed otherwise) branches)
  | .count line name first last body =>
      closed.unlessCanceled (closed.evaluate line first.unchecked_bound fun _ =>
        closed.evaluate line last.unchecked_bound fun _ =>
          closed.count name (runAll_of_closed closed body) _ _)
  | .iterate line condition stopAt body =>
      closed.unlessCanceled
        (closed.iterate line stopAt condition.unchecked_condition (runAll_of_closed closed body))

theorem runAll_of_closed (closed : Action.Closed patience P) :
    ∀ statements : List Statement, P (runAll patience statements)
  | [] => closed.skip
  | statement :: statements =>
      closed.andThen (run_of_closed closed statement) (runAll_of_closed closed statements)

theorem runBranches_of_closed (closed : Action.Closed patience P) (line : Nat) {otherwise : Action}
    (h : P otherwise) :
    ∀ branches : List (Expr × List Statement), P (runBranches patience line otherwise branches)
  | [] => h
  | (condition, body) :: branches => by
      refine closed.evaluate line condition.unchecked_condition fun value => ?_
      cases value with
      | true => exact runAll_of_closed closed body
      | false => exact runBranches_of_closed closed line h branches

end

end Statement

end Pseudocode
