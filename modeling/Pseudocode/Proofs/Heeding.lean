import Pseudocode.Proofs.Actions

/-!
A program heeds its host. As soon as a check is answered with yes it ends as canceled, with no other
call and nothing else done, and it never ends as canceled for another reason.
-/

namespace Pseudocode

namespace Dialogue

variable {α β : Type} {canceled : α → Prop} {canceled' : β → Prop} {d : Dialogue α}
  {f : α → Dialogue β}

/-- Whether a dialogue ends as canceled at once when a check is answered with yes, and else never.
-/
def Heeds (canceled : α → Prop) : Dialogue α → Prop
  | done a => ¬canceled a
  | check next => (∃ a, next true = done a ∧ canceled a) ∧ (next false).Heeds canceled
  | ask _ next => ∀ answer, (next answer).Heeds canceled
  | tell _ next => (next ()).Heeds canceled

theorem Heeds.bind (h : d.Heeds canceled)
    (hcanceled : ∀ a, canceled a → ∃ b, f a = done b ∧ canceled' b)
    (hf : ∀ a, ¬canceled a → (f a).Heeds canceled') : (d >>= f).Heeds canceled' := by
  induction d with
  | done a => exact hf a h
  | check next ih =>
      obtain ⟨⟨a, hnext, ha⟩, hrest⟩ := h
      obtain ⟨b, hb, hb'⟩ := hcanceled a ha
      refine ⟨⟨b, ?_, hb'⟩, ih false hrest⟩
      show next true >>= f = done b
      rw [hnext, done_bind, hb]
  | ask prompt next ih => exact fun answer => ih answer (h answer)
  | tell text next ih => exact ih () h

theorem Unchecked.heeds (h : d.Unchecked) : d.Heeds fun _ => False := by
  induction d with
  | done a => exact not_false
  | check next => exact h.elim
  | ask prompt next ih => exact fun answer => ih answer (h answer)
  | tell text next ih => exact ih () h

end Dialogue

namespace Action

def Heeds (action : Action) : Prop :=
  ∀ scope, (action scope).Heeds fun result => result.1 = some .canceled

variable {first second : Action}

theorem heeds_stop {reason : Stop} (h : reason ≠ .canceled) : (stop reason).Heeds :=
  fun _ hreason => h (Option.some.inj hreason)

theorem Heeds.andThen (hfirst : first.Heeds) (hsecond : second.Heeds) :
    (first.andThen second).Heeds := by
  intro scope
  refine (hfirst scope).bind ?_ ?_
  · rintro ⟨reason?, scope⟩ rfl
    exact ⟨_, rfl, rfl⟩
  · rintro ⟨reason?, scope⟩ hreason
    cases reason? with
    | none => exact hsecond scope
    | some reason => exact hreason

theorem Heeds.unlessCanceled (h : first.Heeds) : (unlessCanceled first).Heeds :=
  fun scope => ⟨⟨_, rfl, rfl⟩, h scope⟩

theorem heeds_evaluate {α : Type} (line : Nat) {evaluation : Scope → Evaluation α}
    {next : α → Action} (hevaluation : ∀ scope, (evaluation scope).Unchecked)
    (h : ∀ a, (next a).Heeds) : (evaluate line evaluation next).Heeds := by
  intro scope
  refine (hevaluation scope).heeds.bind (by simp) fun result _ => ?_
  cases result with
  | ok a => exact h a scope
  | error cause =>
      have hstop : (stop (.fault ⟨line, cause⟩)).Heeds := heeds_stop (by simp)
      exact hstop scope

theorem Heeds.iterate (h : first.Heeds) (line : Nat) {condition : Scope → Evaluation Bool}
    (hcondition : ∀ scope, (condition scope).Unchecked) (stopAt : Bool) (patience : Nat) :
    (iterate line condition stopAt first patience).Heeds := by
  induction patience with
  | zero => exact heeds_stop (by simp)
  | succ patience ih =>
      refine (heeds_evaluate line hcondition fun value scope => ?_).unlessCanceled
      split
      · rintro ⟨⟩
      · exact h.andThen ih scope

theorem closed_heeds (patience : Nat) : Closed patience Heeds where
  skip := by rintro scope ⟨⟩
  andThen := Heeds.andThen
  unlessCanceled := Heeds.unlessCanceled
  evaluate := heeds_evaluate
  assign := by rintro name value scope ⟨⟩
  tell := by rintro text scope ⟨⟩
  ask := fun _ _ h scope answer => h answer scope
  iterate := fun line _ stopAt _ hcondition h => h.iterate line hcondition stopAt patience

end Action

/-- The interpreter heeds its host. -/
theorem Interpreter.script_heeds (patience : Nat) (source : String) :
    (script patience source).Heeds (· = .canceled) := by
  unfold script
  split
  · exact Ending.noConfusion
  · rename_i statements _
    refine (Statement.runAll_of_closed (Action.closed_heeds patience) statements []).bind ?_ ?_
    · rintro ⟨reason?, scope⟩ rfl
      exact ⟨_, rfl, rfl⟩
    · rintro ⟨reason?, scope⟩ hreason
      cases reason? with
      | none => exact Ending.noConfusion
      | some reason =>
          cases reason with
          | canceled => exact (hreason rfl).elim
          | fault | exhausted => exact Ending.noConfusion

end Pseudocode
