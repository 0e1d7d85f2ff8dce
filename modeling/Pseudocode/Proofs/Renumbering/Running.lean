import Pseudocode.Proofs.Pacing
import Pseudocode.Proofs.Renumbering

/-!
Running a program with other line numbers. The numbers show in the fault that a run ends with and
nowhere else: the program talks to its host as before, word for word. So it does on another host, as
long as this one answers in the same way.
-/

namespace Pseudocode

variable {f : Nat → Nat}

def Stop.renumber (f : Nat → Nat) : Stop → Stop
  | fault found => fault (found.renumber f)
  | canceled => canceled
  | exhausted => exhausted

def Ending.renumber (f : Nat → Nat) : Ending → Ending
  | finished summary => finished summary
  | failed fault => failed (fault.renumber f)
  | canceled => canceled
  | crashed => crashed
  | exhausted => exhausted

theorem Ending.ofStop_renumber (reason : Stop) :
    ofStop (reason.renumber f) = (ofStop reason).renumber f := by
  cases reason <;> rfl

/-! ### Statements -/

namespace Action

/-- The action with another line in its fault, if it stops with one. -/
def renumber (f : Nat → Nat) (action : Action) : Action := fun scope => do
  let (reason?, scope) ← action scope
  return (reason?.map (Stop.renumber f), scope)

theorem renumber_andThen (first second : Action) :
    (first.andThen second).renumber f = (first.renumber f).andThen (second.renumber f) := by
  funext scope
  show (first scope >>= _) >>= _ = (first scope >>= _) >>= _
  rw [Dialogue.bind_assoc, Dialogue.bind_assoc]
  congr 1
  funext ⟨reason?, scope⟩
  cases reason? <;> rfl

theorem renumber_unlessCanceled (action : Action) :
    (unlessCanceled action).renumber f = unlessCanceled (action.renumber f) := by
  funext scope
  refine congrArg Dialogue.check (funext fun canceled => ?_)
  cases canceled <;> rfl

theorem renumber_evaluate {α : Type} (line : Nat) (evaluation : Scope → Evaluation α)
    (next : α → Action) :
    (evaluate line evaluation next).renumber f =
      evaluate (f line) evaluation fun a => (next a).renumber f := by
  funext scope
  show ((evaluation scope).run >>= _) >>= _ = (evaluation scope).run >>= _
  rw [Dialogue.bind_assoc]
  congr 1
  funext result
  cases result <;> rfl

theorem renumber_count (name : String) (body : Action) (passes : Nat) (i : Int) :
    (count name body passes i).renumber f = count name (body.renumber f) passes i := by
  induction passes generalizing i with
  | zero => rfl
  | succ passes ih =>
      have hrest := renumber_andThen (f := f) body (count name body passes (i + 1))
      rw [ih (i + 1)] at hrest
      refine (renumber_unlessCanceled _).trans (congrArg unlessCanceled ?_)
      refine (renumber_andThen (assign name (.number (.ofInt i))) _).trans ?_
      exact congrArg (andThen _) hrest

theorem renumber_iterate (line : Nat) (condition : Scope → Evaluation Bool) (stopAt : Bool)
    (body : Action) (patience : Nat) :
    (iterate line condition stopAt body patience).renumber f =
      iterate (f line) condition stopAt (body.renumber f) patience := by
  induction patience with
  | zero => rfl
  | succ patience ih =>
      have hrest := renumber_andThen (f := f) body (iterate line condition stopAt body patience)
      rw [ih] at hrest
      -- Whether the loop goes on is asked of the condition, in which there is no line.
      refine (renumber_unlessCanceled _).trans (congrArg unlessCanceled ?_)
      refine (renumber_evaluate line condition _).trans (congrArg (evaluate _ condition) ?_)
      funext value scope
      rw [← congrFun hrest scope]
      unfold renumber
      split <;> rfl

end Action

namespace Statement

mutual

/-- A statement with other line numbers does what it did. -/
theorem run_renumber (patience : Nat) : ∀ statement : Statement,
    run patience (statement.renumber f) = (run patience statement).renumber f
  | .output line arguments => by
      rw [renumber, run, run, Action.renumber_unlessCanceled, Action.renumber_evaluate]
      rfl
  | .input _ (.var name) => by
      rw [renumber, run, run, Action.renumber_unlessCanceled]
      rfl
  | .input line (.prompt prompt) => by
      rw [renumber, run, run, Action.renumber_unlessCanceled, Action.renumber_evaluate]
      rfl
  | .assign line name value => by
      rw [renumber, run, run, Action.renumber_unlessCanceled, Action.renumber_evaluate]
      rfl
  | .choose line branches otherwise => by
      rw [renumber, run, run, Action.renumber_unlessCanceled,
        runBranches_renumber patience line (runAll_renumber patience otherwise) branches]
  | .count line name first last body => by
      rw [renumber, run, run, Action.renumber_unlessCanceled, Action.renumber_evaluate,
        runAll_renumber patience body]
      simp only [Action.renumber_evaluate, Action.renumber_count]
  | .iterate line condition stopAt body => by
      rw [renumber, run, run, Action.renumber_unlessCanceled, Action.renumber_iterate,
        runAll_renumber patience body]

theorem runAll_renumber (patience : Nat) : ∀ statements : List Statement,
    runAll patience (renumberAll f statements) = (runAll patience statements).renumber f
  | [] => rfl
  | statement :: statements => by
      rw [renumberAll, runAll, runAll, Action.renumber_andThen, run_renumber patience statement,
        runAll_renumber patience statements]

theorem runBranches_renumber (patience line : Nat) {otherwise otherwise' : Action}
    (h : otherwise' = otherwise.renumber f) : ∀ branches : List (Expr × List Statement),
    runBranches patience (f line) otherwise' (renumberBranches f branches) =
      (runBranches patience line otherwise branches).renumber f
  | [] => h
  | (condition, body) :: branches => by
      rw [renumberBranches, runBranches, runBranches, Action.renumber_evaluate,
        runAll_renumber patience body, runBranches_renumber patience line h branches]
      congr 1
      funext value
      cases value <;> rfl

end

end Statement

/-! ### Programs -/

/-- A program with other line numbers talks as it did. -/
theorem Interpreter.script_renumber {source source' : String}
    (h : Program.ofSource source' =
      renumbered f (Statement.renumberAll f) (Program.ofSource source)) (patience : Nat) :
    script patience source' =
      script patience source >>= fun ending => .done (ending.renumber f) := by
  rw [script, script, h]
  cases Program.ofSource source with
  | error fault => rfl
  | ok statements =>
      show Statement.runAll patience _ [] >>= _ = (Statement.runAll patience _ [] >>= _) >>= _
      rw [Statement.runAll_renumber]
      show (Statement.runAll patience statements [] >>= _) >>= _ = _
      rw [Dialogue.bind_assoc, Dialogue.bind_assoc]
      congr 1
      funext result
      obtain ⟨reason?, scope⟩ := result
      cases reason? with
      | none => rfl
      | some reason => exact congrArg Dialogue.done (Ending.ofStop_renumber reason)

/-! ### Hosts -/

variable {σ τ α : Type} {R : σ → τ → Prop} {host : Host σ} {host' : Host τ}

/-- Whether two hosts answer the same from states that `R` holds of, and ever after. -/
structure Host.Alike (R : σ → τ → Prop) (host : Host σ) (host' : Host τ) : Prop where
  check : ∀ {s t}, R s t →
    (host.check s).1 = (host'.check t).1 ∧ R (host.check s).2 (host'.check t).2
  ask : ∀ prompt {s t}, R s t →
    (host.ask prompt s).1 = (host'.ask prompt t).1 ∧ R (host.ask prompt s).2 (host'.ask prompt t).2
  tell : ∀ text {s t}, R s t → R (host.tell text s) (host'.tell text t)

theorem Host.Alike.refl (host : Host σ) : host.Alike Eq host where
  check := by
    rintro s _ rfl
    exact ⟨rfl, rfl⟩
  ask := by
    rintro prompt s _ rfl
    exact ⟨rfl, rfl⟩
  tell := by
    rintro text s _ rfl
    rfl

/-- A dialogue goes the same way on hosts that answer the same. -/
theorem Dialogue.runOn_alike (alike : host.Alike R host') (d : Dialogue α) {s : σ} {t : τ}
    (h : R s t) : d.calls host s = d.calls host' t ∧
      (d.runOn host s).1 = (d.runOn host' t).1 ∧ R (d.runOn host s).2 (d.runOn host' t).2 := by
  induction d generalizing s t with
  | done a => exact ⟨rfl, rfl, h⟩
  | check next ih =>
      obtain ⟨hanswer, hafter⟩ := alike.check h
      obtain ⟨hcalls, hresult⟩ := ih _ hafter
      simp only [calls, runOn, ← hanswer]
      exact ⟨congrArg _ hcalls, hresult⟩
  | ask prompt next ih =>
      obtain ⟨hanswer, hafter⟩ := alike.ask prompt h
      obtain ⟨hcalls, hresult⟩ := ih _ hafter
      simp only [calls, runOn, ← hanswer]
      exact ⟨congrArg _ hcalls, hresult⟩
  | tell text next ih =>
      obtain ⟨hcalls, hresult⟩ := ih () (alike.tell text h)
      exact ⟨congrArg _ hcalls, hresult⟩

end Pseudocode
