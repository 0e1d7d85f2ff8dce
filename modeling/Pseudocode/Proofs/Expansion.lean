import Pseudocode.Proofs.Pacing

/-!
Forms of statements that others stand for. A loop up to a condition is the loop while the denied
condition holds, check for check. A choice with several branches is the choice with the first of
them and the choice with the others in its `otherwise` part; the second one makes a check more for
each choice further in, so the two are compared where nobody cancels. With both, a program has a
core in which a choice has one branch at most and a loop only goes on while its condition holds.
-/

namespace Pseudocode

/-! ### Loops up to a condition -/

namespace Expr

/-- A denied condition has the other value, and goes wrong in the same way. -/
theorem condition_not (scope : Scope) (e : Expr) :
    (unary .not e).condition scope = e.condition scope >>= fun b => pure !b := by
  refine (Dialogue.bind_assoc (e.eval scope).run _ _).trans ?_
  refine Eq.trans ?_ (Dialogue.bind_assoc (e.eval scope).run _ _).symm
  congr 1
  funext result
  cases result with
  | ok v => cases v <;> rfl
  | error cause => rfl

end Expr

namespace Action

theorem evaluate_bind_pure {α β : Type} (line : Nat) (evaluation : Scope → Evaluation α)
    (f : α → β) (next : β → Action) :
    evaluate line (fun scope => evaluation scope >>= fun a => pure (f a)) next =
      evaluate line evaluation fun a => next (f a) := by
  funext scope
  refine (Dialogue.bind_assoc (evaluation scope).run _ _).trans ?_
  show (evaluation scope).run >>= _ = (evaluation scope).run >>= _
  congr 1
  funext result
  cases result <;> rfl

theorem iterate_not (line : Nat) (condition : Expr) (body : Action) (patience : Nat) :
    iterate line condition.condition true body patience =
      iterate line (Expr.unary .not condition).condition false body patience := by
  induction patience with
  | zero => rfl
  | succ patience ih =>
      have hnot : (Expr.unary .not condition).condition = fun scope =>
          condition.condition scope >>= fun b => pure !b :=
        funext fun scope => Expr.condition_not scope condition
      rw [iterate, iterate, ← ih, hnot, evaluate_bind_pure]
      congr 2
      funext value scope
      cases value <;> rfl

end Action

/-! ### Dialogues that nobody cancels -/

namespace Dialogue

variable {α β : Type}

/-- What is left of a dialogue if all its checks are answered with no. -/
def uncanceled : Dialogue α → Dialogue α
  | done a => done a
  | check next => (next false).uncanceled
  | ask prompt next => ask prompt fun answer => (next answer).uncanceled
  | tell text next => tell text fun u => (next u).uncanceled

theorem uncanceled_bind (d : Dialogue α) (f : α → Dialogue β) :
    (d >>= f).uncanceled = d.uncanceled >>= fun a => (f a).uncanceled := by
  induction d with
  | done a => rfl
  | check next ih => exact ih false
  | ask prompt next ih => exact congrArg (ask prompt) (funext ih)
  | tell text next ih => exact congrArg (tell text) (funext ih)

end Dialogue

/-- Whether a host never cancels, and whatever else it does depends on no more of its state than a
view, in which a check leaves no trace. -/
structure Host.Indifferent {σ τ : Type} (view : σ → τ) (host : Host σ) : Prop where
  check : ∀ s, (host.check s).1 = false ∧ view (host.check s).2 = view s
  ask : ∀ prompt {s t}, view s = view t →
    (host.ask prompt s).1 = (host.ask prompt t).1 ∧
      view (host.ask prompt s).2 = view (host.ask prompt t).2
  tell : ∀ text {s t}, view s = view t → view (host.tell text s) = view (host.tell text t)

/-- A host that answers every check with no and does nothing else with it. -/
theorem Host.Indifferent.of_check {σ : Type} {host : Host σ}
    (h : ∀ s, host.check s = (false, s)) : host.Indifferent id where
  check s := by simp [h s]
  ask := by
    rintro prompt s _ rfl
    exact ⟨rfl, rfl⟩
  tell := by
    rintro text s _ rfl
    rfl

theorem Host.indifferent_recording (answers : Nat → String) :
    (recording answers fun _ => false).Indifferent fun calls => calls.filter (· != .check) where
  check calls := by simp [recording]
  ask prompt {calls calls'} h := by
    have hasks (calls : List HostCall) :
        calls.countP HostCall.isAsk = (calls.filter (· != .check)).countP HostCall.isAsk := by
      rw [List.countP_filter]
      exact List.countP_congr fun call _ => by cases call <;> simp [HostCall.isAsk]
    simp [recording, hasks calls, hasks calls', h]
  tell text {calls calls'} h := by simp [recording, h]

namespace Dialogue

variable {σ τ α : Type} {view : σ → τ} {host : Host σ}

/-- The calls of a dialogue that are no checks. -/
def said (host : Host σ) (d : Dialogue α) (s : σ) : List HostCall :=
  (d.calls host s).filter (· != .check)

theorem runOn_uncanceled (indifferent : host.Indifferent view) (d : Dialogue α) {s t : σ}
    (h : view s = view t) : (d.runOn host s).1 = (d.uncanceled.runOn host t).1 ∧
      view (d.runOn host s).2 = view (d.uncanceled.runOn host t).2 ∧
      d.said host s = d.uncanceled.calls host t := by
  induction d generalizing s t with
  | done a => exact ⟨rfl, h, rfl⟩
  | check next ih =>
      obtain ⟨hno, hview⟩ := indifferent.check s
      simp only [runOn, said, calls, hno]
      exact ih false (hview.trans h)
  | ask prompt next ih =>
      obtain ⟨hanswer, hview⟩ := indifferent.ask prompt h
      obtain ⟨hresult, hafter, hsaid⟩ := ih (host.ask prompt s).1 hview
      simp only [runOn, uncanceled, calls, ← hanswer]
      exact ⟨hresult, hafter, congrArg _ hsaid⟩
  | tell text next ih =>
      obtain ⟨hresult, hafter, hsaid⟩ := ih () (indifferent.tell text h)
      exact ⟨hresult, hafter, congrArg _ hsaid⟩

/-- Dialogues that differ in their checks only are the same to a host that never cancels. -/
theorem runOn_of_uncanceled_eq (indifferent : host.Indifferent view) {d d' : Dialogue α}
    (heq : d.uncanceled = d'.uncanceled) {s t : σ} (h : view s = view t) :
    (d.runOn host s).1 = (d'.runOn host t).1 ∧
      view (d.runOn host s).2 = view (d'.runOn host t).2 ∧ d.said host s = d'.said host t := by
  obtain ⟨hresult, hafter, hsaid⟩ := runOn_uncanceled indifferent d h
  obtain ⟨hresult', hafter', hsaid'⟩ := runOn_uncanceled indifferent d' (rfl : view t = view t)
  rw [heq] at hresult hafter hsaid
  exact ⟨hresult.trans hresult'.symm, hafter.trans hafter'.symm, hsaid.trans hsaid'.symm⟩

end Dialogue

/-! ### Choices with several branches -/

namespace Action

/-- Whether two actions are the same if nobody cancels them. -/
def Matches (action action' : Action) : Prop :=
  ∀ scope, (action scope).uncanceled = (action' scope).uncanceled

variable {first first' second second' action action' action'' : Action}

theorem Matches.refl (action : Action) : action.Matches action := fun _ => rfl

theorem Matches.symm (h : action.Matches action') : action'.Matches action :=
  fun scope => (h scope).symm

theorem Matches.trans (h : action.Matches action') (h' : action'.Matches action'') :
    action.Matches action'' :=
  fun scope => (h scope).trans (h' scope)

/-- A check makes no difference. -/
theorem matches_unlessCanceled (action : Action) : (unlessCanceled action).Matches action :=
  fun _ => rfl

theorem andThen_skip (action : Action) : action.andThen skip = action := by
  funext scope
  refine Eq.trans ?_ (Dialogue.bind_done (action scope))
  show action scope >>= _ = action scope >>= _
  congr 1
  funext ⟨reason?, scope⟩
  cases reason? <;> rfl

theorem Matches.unlessCanceled (h : action.Matches action') :
    (unlessCanceled action).Matches (unlessCanceled action') := h

theorem Matches.andThen (h : first.Matches first') (h' : second.Matches second') :
    (first.andThen second).Matches (first'.andThen second') := by
  intro scope
  refine (Dialogue.uncanceled_bind (first scope) _).trans ?_
  refine Eq.trans ?_ (Dialogue.uncanceled_bind (first' scope) _).symm
  rw [h scope]
  congr 1
  funext ⟨reason?, scope⟩
  cases reason? with
  | none => exact h' scope
  | some reason => rfl

theorem matches_evaluate {α : Type} (line : Nat) (evaluation : Scope → Evaluation α)
    {next next' : α → Action} (h : ∀ a, (next a).Matches (next' a)) :
    (evaluate line evaluation next).Matches (evaluate line evaluation next') := by
  intro scope
  refine (Dialogue.uncanceled_bind (evaluation scope).run _).trans ?_
  refine Eq.trans ?_ (Dialogue.uncanceled_bind (evaluation scope).run _).symm
  congr 1
  funext result
  cases result with
  | ok a => exact h a scope
  | error cause => rfl

theorem Matches.count (h : action.Matches action') (name : String) (passes : Nat) (i : Int) :
    (count name action passes i).Matches (count name action' passes i) := by
  induction passes generalizing i with
  | zero => exact .refl skip
  | succ passes ih => exact ((Matches.refl _).andThen (h.andThen (ih _))).unlessCanceled

theorem Matches.iterate (h : action.Matches action') (line : Nat)
    (condition : Scope → Evaluation Bool) (stopAt : Bool) (patience : Nat) :
    (iterate line condition stopAt action patience).Matches
      (iterate line condition stopAt action' patience) := by
  induction patience with
  | zero => exact .refl _
  | succ patience ih =>
      refine (matches_evaluate line condition fun value scope => ?_).unlessCanceled
      split
      · rfl
      · exact h.andThen ih scope

end Action

namespace Statement

variable (patience : Nat)

/-- The branches after the first one can stand in a choice of their own. -/
theorem matches_split (line : Nat) (condition : Expr) (body : List Statement)
    (branches : List (Expr × List Statement)) (otherwise : List Statement) :
    (run patience (.choose line ((condition, body) :: branches) otherwise)).Matches
      (run patience (.choose line [(condition, body)] [.choose line branches otherwise])) := by
  refine Action.Matches.unlessCanceled ?_
  refine Action.matches_evaluate line condition.condition fun value => ?_
  cases value with
  | true => exact .refl _
  | false =>
      -- The choice in the `otherwise` part is checked, and nothing comes after it.
      rw [if_neg Bool.false_ne_true, if_neg Bool.false_ne_true, runBranches, runAll, runAll,
        Action.andThen_skip]
      exact (Action.matches_unlessCanceled _).symm

theorem matches_choose (line : Nat) {branches : List (Expr × List Statement)}
    {otherwise otherwise' : List Statement}
    (h : (runAll patience otherwise).Matches (runAll patience otherwise')) :
    (run patience (.choose line branches otherwise)).Matches
      (run patience (.choose line branches otherwise')) := by
  refine Action.Matches.unlessCanceled ?_
  induction branches with
  | nil => exact h
  | cons branch branches ih =>
      refine Action.matches_evaluate line branch.1.condition fun value => ?_
      cases value with
      | true => exact .refl _
      | false => exact ih

/-- A choice with its branches one in the `otherwise` part of the other. -/
def nested (line : Nat) : List (Expr × List Statement) → List Statement → Statement
  | [], otherwise => .choose line [] otherwise
  | [branch], otherwise => .choose line [branch] otherwise
  | branch :: branch' :: branches, otherwise =>
    .choose line [branch] [nested line (branch' :: branches) otherwise]

theorem matches_nested (line : Nat) (branches : List (Expr × List Statement))
    (otherwise : List Statement) :
    (run patience (.choose line branches otherwise)).Matches
      (run patience (nested line branches otherwise)) := by
  induction branches with
  | nil => exact .refl _
  | cons branch branches ih =>
      cases branches with
      | nil => exact .refl _
      | cons branch' branches =>
          refine (matches_split patience line branch.1 branch.2 _ otherwise).trans ?_
          exact matches_choose patience line (ih.andThen (.refl _))

mutual

/-- A statement that does the same with choices of one branch and loops while a condition holds. -/
def core : Statement → Statement
  | .choose line branches otherwise => nested line (coreBranches branches) (coreAll otherwise)
  | .count line name first last body => .count line name first last (coreAll body)
  | .iterate line condition true body =>
    .iterate line (.unary .not condition) false (coreAll body)
  | .iterate line condition false body => .iterate line condition false (coreAll body)
  | statement => statement

def coreAll : List Statement → List Statement
  | [] => []
  | statement :: statements => core statement :: coreAll statements

def coreBranches : List (Expr × List Statement) → List (Expr × List Statement)
  | [] => []
  | (condition, body) :: branches => (condition, coreAll body) :: coreBranches branches

end

mutual

theorem matches_core : ∀ statement : Statement,
    (run patience statement).Matches (run patience statement.core)
  | .output .. | .input .. | .assign .. => .refl _
  | .choose line branches otherwise =>
      (Action.Matches.unlessCanceled
        (matches_coreBranches (matches_coreAll otherwise) branches)).trans
          (matches_nested patience line (coreBranches branches) (coreAll otherwise))
  | .count line name first last body =>
      (Action.matches_evaluate line first.bound fun _ =>
        Action.matches_evaluate line last.bound fun _ =>
          (matches_coreAll body).count name _ _).unlessCanceled
  | .iterate line condition true body => by
      rw [core, run, run, ← Action.iterate_not]
      exact ((matches_coreAll body).iterate line condition.condition true patience).unlessCanceled
  | .iterate line condition false body =>
      ((matches_coreAll body).iterate line condition.condition false patience).unlessCanceled

theorem matches_coreAll : ∀ statements : List Statement,
    (runAll patience statements).Matches (runAll patience (coreAll statements))
  | [] => .refl _
  | statement :: statements => (matches_core statement).andThen (matches_coreAll statements)

theorem matches_coreBranches {line : Nat} {otherwise otherwise' : Action}
    (h : otherwise.Matches otherwise') : ∀ branches : List (Expr × List Statement),
      (runBranches patience line otherwise branches).Matches
        (runBranches patience line otherwise' (coreBranches branches))
  | [] => h
  | (condition, body) :: branches => by
      refine Action.matches_evaluate line condition.condition fun value => ?_
      cases value with
      | true => exact matches_coreAll body
      | false => exact matches_coreBranches h branches

end

/-- On a host that never cancels, a program and its core say the same and end in the same way. -/
theorem runOn_coreAll {σ τ : Type} {view : σ → τ} {host : Host σ}
    (indifferent : host.Indifferent view) (statements : List Statement) (scope : Scope) (s : σ) :
    ((runAll patience statements scope).runOn host s).1 =
        ((runAll patience (coreAll statements) scope).runOn host s).1 ∧
      (runAll patience statements scope).said host s =
        (runAll patience (coreAll statements) scope).said host s := by
  obtain ⟨hresult, -, hsaid⟩ := Dialogue.runOn_of_uncanceled_eq indifferent
    (matches_coreAll patience statements scope) (rfl : view s = view s)
  exact ⟨hresult, hsaid⟩

/-- A loop up to a condition does, check for check, what the loop while the denied condition holds
does. On a host that never cancels, a choice says and does what the choice with its first branch
says and does that has the choice with the other branches, of the same line, in its `otherwise`
part; each host is one of these that answers every check with no and does nothing else with it.
Neither depends on how the conditions come out, nor on whether a loop comes to an end: cut off after
any number of passes, the runs are the same. -/
theorem agrees_with_expansion :
    (∀ line condition body, run patience (.iterate line condition true body) =
      run patience (.iterate line (.unary .not condition) false body)) ∧
    (∀ {σ τ : Type} {view : σ → τ} {host : Host σ}, host.Indifferent view →
      ∀ line condition body branches otherwise scope s t, view s = view t →
        let whole := run patience (.choose line ((condition, body) :: branches) otherwise) scope
        let split := run patience
          (.choose line [(condition, body)] [.choose line branches otherwise]) scope
        ∃ reason? scope' s' t', whole.runOn host s = ((reason?, scope'), s') ∧
          split.runOn host t = ((reason?, scope'), t') ∧ view s' = view t' ∧
          whole.said host s = split.said host t) ∧
    ∀ {σ : Type} {host : Host σ}, (∀ s, host.check s = (false, s)) → host.Indifferent id := by
  refine ⟨?_, ?_, Host.Indifferent.of_check⟩
  · intro line condition body
    rw [run, run, Action.iterate_not]
  · intro σ τ view host indifferent line condition body branches otherwise scope s t h
    obtain ⟨hresult, hafter, hsaid⟩ := Dialogue.runOn_of_uncanceled_eq indifferent
      (matches_split patience line condition body branches otherwise scope) h
    refine ⟨_, _, _, _, rfl, ?_, hafter, hsaid⟩
    exact Prod.ext hresult.symm rfl

/-- Whether the answer to a question is 1. -/
def isOne : Expr := .binary .eq (.input (.text "a")) (.number (.ofInt 1))

theorem agrees_with_expansion_isOne :
    let host := Host.recording (fun _ => "2") fun _ => false
    let whole := run 0 (.choose 1 [(isOne, []), (.var "b", [])] []) []
    let split := run 0 (.choose 1 [(isOne, [])] [.choose 1 [(.var "b", [])] []]) []
    whole.runOn host [] =
        ((some (.fault ⟨1, .unknownVariable "b"⟩), []), [.check, .ask "a"]) ∧
      split.runOn host [] =
        ((some (.fault ⟨1, .unknownVariable "b"⟩), []), [.check, .ask "a", .check]) ∧
      whole.said host [] = split.said host [] ∧
      run 7 (.iterate 3 isOne true []) = run 7 (.iterate 3 (.unary .not isOne) false []) := by
  intro host whole split
  obtain ⟨-, hsplit, -⟩ := agrees_with_expansion 0
  obtain ⟨reason?, scope, calls, calls', hwhole, hcalls', -, hsaid⟩ :=
    hsplit (Host.indifferent_recording fun _ => "2") 1 isOne [] [(.var "b", [])] [] [] [] [] rfl
  have hrun : whole.runOn host [] =
      ((some (.fault ⟨1, .unknownVariable "b"⟩), []), [.check, .ask "a"]) := by
    decide +kernel
  have hchecks : (split.runOn host []).2 = [.check, .ask "a", .check] := by decide +kernel
  -- The choices end in the same way, so only the checks have to be looked up.
  cases hwhole.symm.trans hrun
  cases (congrArg Prod.snd hcalls').symm.trans hchecks
  exact ⟨hrun, hcalls', hsaid, (agrees_with_expansion 7).1 3 isOne []⟩

end Statement

end Pseudocode
