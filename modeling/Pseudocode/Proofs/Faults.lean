import Pseudocode.Proofs.Limits
import Pseudocode.Proofs.Outline.Earliest
import Pseudocode.Proofs.Pacing
import Pseudocode.Proofs.Remarks

/-!
What the faults of a run come from. A run stops with a fault only where some statement evaluates one
of its own expressions: the fault has the line of that statement, and its cause can be found in the
expression. A variable that is unknown is one that the expression names, and it is still not defined
when the run has ended; a division by zero is one that the expression writes; and the bounds of
counting loops are the only numbers that can be unfit.
-/

namespace Pseudocode

namespace Dialogue

variable {α : Type} {may : Bool → Prop} {P Q : α → Prop} {d : Dialogue α}

theorem Ends.mono (h : d.Ends may P) (hPQ : ∀ a, P a → Q a) : d.Ends may Q := by
  have hbind : (d >>= .done).Ends may Q := h.bind hPQ
  rwa [bind_done] at hbind

end Dialogue

/-! ### Expressions -/

namespace Evaluation

variable {α β : Type} {P Q : Cause → Prop} {evaluation : Evaluation α} {f : α → Evaluation β}

/-- Whether an evaluation stops for causes of one kind only. -/
def StopsFor (P : Cause → Prop) (evaluation : Evaluation α) : Prop :=
  evaluation.run.Ends (fun _ => True) fun result => ∀ cause, result = .error cause → P cause

theorem stopsFor_pure (a : α) : (pure a : Evaluation α).StopsFor P :=
  fun _ h => nomatch h

theorem stopsFor_throw {cause : Cause} (h : P cause) : (throw cause : Evaluation α).StopsFor P :=
  fun _ heq => Except.error.inj heq ▸ h

theorem stopsFor_ofExcept {result : Except Cause α} (h : ∀ cause, result = .error cause → P cause) :
    (ofExcept result).StopsFor P := h

theorem stopsFor_ask (prompt : String) : (ask prompt).StopsFor P :=
  fun _ _ h => nomatch h

theorem StopsFor.mono (h : evaluation.StopsFor P) (hPQ : ∀ cause, P cause → Q cause) :
    evaluation.StopsFor Q :=
  Dialogue.Ends.mono h fun _ hresult cause heq => hPQ cause (hresult cause heq)

theorem StopsFor.bind (h : evaluation.StopsFor P) (hf : ∀ a, (f a).StopsFor P) :
    (evaluation >>= f).StopsFor P := by
  refine Dialogue.Ends.bind h fun result hresult => ?_
  cases result with
  | ok a => exact hf a
  | error cause => exact fun _ heq => Except.error.inj heq ▸ hresult cause rfl

end Evaluation

def Cause.isMismatch : Cause → Bool
  | mismatch _ => true
  | _ => false

def Cause.isLoopBound : Cause → Bool
  | loopBound _ _ => true
  | _ => false

namespace Value

variable {v : Value} {cause : Cause}

theorem isMismatch_of_asCondition (h : v.asCondition = .error cause) : cause.isMismatch = true := by
  cases v with
  | truth b => cases h
  | number | text =>
      cases h
      rfl

theorem isMismatch_of_asNumber (h : v.asNumber = .error cause) : cause.isMismatch = true := by
  cases v with
  | number n => cases h
  | text | truth =>
      cases h
      rfl

theorem asBound_eq_error (h : v.asBound = .error cause) :
    cause.isMismatch = true ∨ cause.isLoopBound = true := by
  rcases bind_eq_error.mp h with h | ⟨n, -, h⟩
  · exact .inl (isMismatch_of_asNumber h)
  · split at h
    · cases h
      exact .inr rfl
    · split at h
      · cases h
      · cases h
        exact .inr rfl

end Value

/-- An operator fails because of the kinds of its operands, or because it divides by zero. -/
theorem BinaryOp.apply_eq_error {op : BinaryOp} {left right : Value} {cause : Cause}
    (h : op.apply left right = .error cause) :
    cause.isMismatch = true ∨ cause = .divisionByZero ∧ op.dividesBy = true := by
  have hmismatch {onValues : Option Value} {mismatch : Mismatch}
      (h : onValues.elim (.error (.mismatch mismatch)) .ok = Except.error cause) :
      cause.isMismatch = true := by
    cases onValues <;> cases h
    rfl
  unfold apply at h
  dsimp only at h
  split at h
  · cases h
  · cases h
  · split at h
    · rename_i hzero
      cases h
      exact .inr ⟨rfl, (Bool.and_eq_true_iff.mp hzero).1⟩
    · exact .inl (hmismatch h)
  · cases h
  · cases h
  · exact .inl (hmismatch h)
  · cases h
    exact .inl rfl

namespace Expr

open Evaluation

/-- Whether an operator in the expression divides. -/
def divides : Expr → Bool
  | number _ | text _ | truth _ | var _ => false
  | unary _ e => e.divides
  | binary op a b => op.dividesBy || a.divides || b.divides
  | input prompt => prompt.divides

/-- The causes that the evaluation of an expression can stop for. -/
def Raises (scope : Scope) (e : Expr) : Cause → Prop
  | .unknownVariable name => name ∈ e.names ∧ scope.get? name = none
  | .divisionByZero => e.divides = true
  | .mismatch _ => True
  | .loopBound _ _ | .malformed _ => False

variable {scope : Scope} {e e' a b : Expr} {op : BinaryOp} {cause : Cause}

theorem raises_of_isMismatch (h : cause.isMismatch = true) : e.Raises scope cause := by
  cases cause with
  | mismatch => trivial
  | _ => cases h

/-- An expression raises what an expression in it raises. -/
theorem Raises.of_part (h : e.Raises scope cause) (hnames : ∀ name ∈ e.names, name ∈ e'.names)
    (hdivides : e.divides = true → e'.divides = true) : e'.Raises scope cause := by
  cases cause with
  | unknownVariable name => exact ⟨hnames name h.1, h.2⟩
  | divisionByZero => exact hdivides h
  | mismatch => trivial
  | loopBound | malformed => exact h

theorem Raises.left (h : a.Raises scope cause) : (binary op a b).Raises scope cause :=
  h.of_part (fun _ => List.mem_append_left _) fun hdivides => by simp [divides, hdivides]

theorem Raises.right (h : b.Raises scope cause) : (binary op a b).Raises scope cause :=
  h.of_part (fun _ => List.mem_append_right _) fun hdivides => by simp [divides, hdivides]

theorem stopsFor_asCondition (v : Value) : (ofExcept v.asCondition).StopsFor (e.Raises scope) :=
  stopsFor_ofExcept fun _ h => raises_of_isMismatch (Value.isMismatch_of_asCondition h)

theorem stopsFor_eval (scope : Scope) (e : Expr) : (e.eval scope).StopsFor (e.Raises scope) := by
  induction e with
  | number | text | truth => exact stopsFor_pure _
  | var name =>
      unfold eval
      cases hname : scope.get? name with
      | some v => exact stopsFor_pure v
      | none => exact stopsFor_throw ⟨List.mem_singleton.mpr rfl, hname⟩
  | input prompt ih =>
      exact (ih.mono fun _ h => h.of_part (fun _ => id) id).bind fun _ =>
        (stopsFor_ask _).bind fun _ => stopsFor_pure _
  | unary op e ih =>
      have hoperand : (e.eval scope).StopsFor ((unary op e).Raises scope) :=
        ih.mono fun _ h => h.of_part (fun _ => id) id
      cases op with
      | neg =>
          exact hoperand.bind fun _ =>
            (stopsFor_ofExcept fun _ h =>
              raises_of_isMismatch (Value.isMismatch_of_asNumber h)).bind fun _ => stopsFor_pure _
      | not => exact hoperand.bind fun _ => (stopsFor_asCondition _).bind fun _ => stopsFor_pure _
  | binary op a b iha ihb =>
      have hleft : (a.eval scope).StopsFor ((binary op a b).Raises scope) := iha.mono fun _ => .left
      have hright : (b.eval scope).StopsFor ((binary op a b).Raises scope) :=
        ihb.mono fun _ => .right
      -- What `and` and `or` do once the value of the first operand is known.
      have hlazy : ∀ v : Bool, (do
          if v then return .truth (← Evaluation.ofExcept (← b.eval scope).asCondition)
          else return .truth false : Evaluation Value).StopsFor ((binary op a b).Raises scope) := by
        intro v
        cases v with
        | true => exact hright.bind fun _ => (stopsFor_asCondition _).bind fun _ => stopsFor_pure _
        | false => exact stopsFor_pure _
      have happly (left right : Value) :
          (ofExcept (op.apply left right)).StopsFor ((binary op a b).Raises scope) := by
        refine stopsFor_ofExcept fun cause h => ?_
        rcases BinaryOp.apply_eq_error h with h | ⟨rfl, hdivides⟩
        · exact raises_of_isMismatch h
        · simp [Raises, divides, hdivides]
      cases op with
      | and => exact hleft.bind fun _ => (stopsFor_asCondition _).bind hlazy
      | or =>
          refine hleft.bind fun _ => (stopsFor_asCondition _).bind fun v => ?_
          cases v with
          | true => exact stopsFor_pure _
          | false => exact hlazy true
      | _ => exact hleft.bind fun _ => hright.bind fun _ => happly _ _

theorem stopsFor_condition (scope : Scope) (e : Expr) :
    (e.condition scope).StopsFor (e.Raises scope) :=
  (e.stopsFor_eval scope).bind fun _ => stopsFor_asCondition _

theorem stopsFor_bound (scope : Scope) (e : Expr) :
    (e.bound scope).StopsFor fun cause => e.Raises scope cause ∨ cause.isLoopBound = true :=
  ((e.stopsFor_eval scope).mono fun _ => .inl).bind fun _ =>
    stopsFor_ofExcept fun _ h => (Value.asBound_eq_error h).imp_left raises_of_isMismatch

theorem stopsFor_line (scope : Scope) (es : List Expr) :
    (line scope es).StopsFor fun cause => ∃ e ∈ es, e.Raises scope cause := by
  induction es with
  | nil => exact stopsFor_pure _
  | cons e es ih =>
      have hfirst : (e.eval scope).StopsFor fun cause => ∃ e' ∈ e :: es, e'.Raises scope cause :=
        (e.stopsFor_eval scope).mono fun _ h => ⟨e, List.mem_cons_self, h⟩
      cases es with
      | nil => exact hfirst.bind fun _ => stopsFor_pure _
      | cons e' es =>
          refine hfirst.bind fun _ => (ih.mono ?_).bind fun _ => stopsFor_pure _
          rintro cause ⟨e'', he'', h⟩
          exact ⟨e'', List.mem_cons_of_mem _ he'', h⟩

end Expr

/-! ### Statements -/

namespace Action

variable {P : Scope → Fault → Prop} {first second action : Action}

/-- Whether the faults that an action stops with, and the scopes that it leaves then, are of one
kind only. -/
def Faults (P : Scope → Fault → Prop) (action : Action) : Prop :=
  ∀ scope, (action scope).Ends (fun _ => True) fun result =>
    ∀ fault, result.1 = some (.fault fault) → P result.2 fault

theorem faults_skip : skip.Faults P := fun _ _ h => nomatch h

theorem faults_assign (name : String) (value : Value) : (assign name value).Faults P :=
  fun _ _ h => nomatch h

theorem faults_tell (text : String) : (tell text).Faults P := fun _ _ h => nomatch h

theorem faults_ask (prompt : String) {next : String → Action}
    (h : ∀ answer, (next answer).Faults P) : (ask prompt next).Faults P :=
  fun scope answer => h answer scope

theorem Faults.andThen (h : first.Faults P) (h' : second.Faults P) :
    (first.andThen second).Faults P := by
  intro scope
  refine (h scope).bind fun result hresult => ?_
  obtain ⟨reason?, scope⟩ := result
  cases reason? with
  | none => exact h' scope
  | some reason => exact hresult

theorem Faults.unlessCanceled (h : action.Faults P) : (unlessCanceled action).Faults P := by
  intro scope canceled _
  cases canceled with
  | true => exact fun _ h => nomatch h
  | false => exact h scope

theorem faults_evaluate {α : Type} (line : Nat) {evaluation : Scope → Evaluation α}
    {next : α → Action}
    (h : ∀ scope, (evaluation scope).StopsFor fun cause => P scope ⟨line, cause⟩)
    (hnext : ∀ a, (next a).Faults P) : (evaluate line evaluation next).Faults P := by
  intro scope
  refine Dialogue.Ends.bind (h scope) fun result hresult => ?_
  cases result with
  | ok a => exact hnext a scope
  | error cause =>
      rintro fault heq
      obtain rfl := Stop.fault.inj (Option.some.inj heq)
      exact hresult cause rfl

theorem Faults.count (h : action.Faults P) (name : String) (passes : Nat) (i : Int) :
    (count name action passes i).Faults P := by
  induction passes generalizing i with
  | zero => exact faults_skip
  | succ passes ih => exact ((faults_assign name _).andThen (h.andThen (ih _))).unlessCanceled

theorem Faults.iterate (line : Nat) {condition : Scope → Evaluation Bool} (stopAt : Bool)
    (h : ∀ scope, (condition scope).StopsFor fun cause => P scope ⟨line, cause⟩)
    (hbody : action.Faults P) (patience : Nat) :
    (iterate line condition stopAt action patience).Faults P := by
  induction patience with
  | zero => exact fun _ _ h => nomatch h
  | succ patience ih =>
      refine (faults_evaluate line h fun value scope => ?_).unlessCanceled
      split
      · exact faults_skip scope
      · exact hbody.andThen ih scope

end Action

namespace Statement

open Pseudocode.Action

def isCount : Statement → Bool
  | count .. => true
  | _ => false

/-- The causes that a statement can stop for by itself. -/
def Raises (scope : Scope) (statement : Statement) (cause : Cause) : Prop :=
  (∃ e ∈ statement.ownExpressions, e.Raises scope cause) ∨
    statement.isCount = true ∧ cause.isLoopBound = true

/-- Whether a fault is one of some statements. -/
def Explain (statements : List Statement) (scope : Scope) (fault : Fault) : Prop :=
  ∃ statement ∈ statements, statement.line = fault.line ∧ statement.Raises scope fault.cause

variable {statement : Statement} {statements : List Statement}

theorem mem_withInner_self (statement : Statement) : statement ∈ statement.withInner := by
  cases statement <;> exact List.mem_cons_self

/-- Faults in the evaluation of an own expression are those of the statement. -/
theorem faults_own {α : Type} {e : Expr} {evaluation : Scope → Evaluation α} {next : α → Action}
    (hmem : statement ∈ statements) (he : e ∈ statement.ownExpressions)
    (h : ∀ scope, (evaluation scope).StopsFor (e.Raises scope))
    (hnext : ∀ a, (next a).Faults (Explain statements)) :
    (evaluate statement.line evaluation next).Faults (Explain statements) :=
  faults_evaluate _ (fun scope => (h scope).mono fun _ hcause =>
    ⟨statement, hmem, rfl, .inl ⟨e, he, hcause⟩⟩) hnext

theorem faults_bound {line : Nat} {name : String} {first last e : Expr} {body : List Statement}
    (hmem : count line name first last body ∈ statements) (he : e ∈ [first, last])
    {next : Int → Action} (hnext : ∀ i, (next i).Faults (Explain statements)) :
    (evaluate line e.bound next).Faults (Explain statements) :=
  faults_evaluate _ (fun scope => (e.stopsFor_bound scope).mono fun _ hcause =>
    ⟨_, hmem, rfl, hcause.imp (fun hcause => ⟨e, he, hcause⟩) fun hcause => ⟨rfl, hcause⟩⟩) hnext

variable (patience : Nat)

mutual

theorem faults_run : ∀ {statement : Statement},
    (∀ inner ∈ statement.withInner, inner ∈ statements) →
      (run patience statement).Faults (Explain statements)
  | .output line arguments, h => by
      refine (faults_evaluate line (fun scope => ?_) faults_tell).unlessCanceled
      refine (Expr.stopsFor_line scope arguments).mono fun cause hcause => ?_
      exact ⟨_, h _ (mem_withInner_self _), rfl, .inl hcause⟩
  | .input _ (.var name), _ => (faults_ask name fun _ => faults_assign name _).unlessCanceled
  | .input line (.prompt prompt), h => by
      have hmem := h _ (mem_withInner_self (.input line (.prompt prompt)))
      exact (faults_own hmem List.mem_cons_self (prompt.stopsFor_eval ·)
        fun _ => faults_ask _ fun _ => faults_skip).unlessCanceled
  | .assign line name value, h => by
      have hmem := h _ (mem_withInner_self (.assign line name value))
      exact (faults_own hmem List.mem_cons_self (value.stopsFor_eval ·)
        (faults_assign name)).unlessCanceled
  | .choose line branches otherwise, h => by
      have hinner := List.forall_mem_append.mp (List.forall_mem_cons.mp h).2
      have hmem := h _ (mem_withInner_self (.choose line branches otherwise))
      exact (faults_runBranches hmem (faults_runAll hinner.2) (fun _ => id) hinner.1).unlessCanceled
  | .count line name first last body, h => by
      have hmem := h _ (mem_withInner_self (.count line name first last body))
      have hbody := faults_runAll (List.forall_mem_cons.mp h).2
      exact (faults_bound hmem List.mem_cons_self fun _ =>
        faults_bound hmem (List.mem_cons_of_mem _ List.mem_cons_self) fun _ =>
          hbody.count name _ _).unlessCanceled
  | .iterate line condition stopAt body, h => by
      have hmem := h _ (mem_withInner_self (.iterate line condition stopAt body))
      have hbody := faults_runAll (List.forall_mem_cons.mp h).2
      refine (Faults.iterate line stopAt (fun scope => ?_) hbody patience).unlessCanceled
      refine (condition.stopsFor_condition scope).mono fun cause hcause => ?_
      exact ⟨_, hmem, rfl, .inl ⟨condition, List.mem_cons_self, hcause⟩⟩

theorem faults_runAll : ∀ {block : List Statement},
    (∀ inner ∈ withInnerAll block, inner ∈ statements) →
      (runAll patience block).Faults (Explain statements)
  | [], _ => faults_skip
  | _ :: _, h =>
      have hinner := List.forall_mem_append.mp h
      (faults_run hinner.1).andThen (faults_runAll hinner.2)

/-- The conditions of all branches are evaluated at the line of the choice. -/
theorem faults_runBranches {choice : Statement} {otherwise : Action} (hmem : choice ∈ statements)
    (hotherwise : otherwise.Faults (Explain statements)) :
    ∀ {branches : List (Expr × List Statement)},
      (∀ e ∈ branches.map Prod.fst, e ∈ choice.ownExpressions) →
      (∀ inner ∈ innerOfBranches branches, inner ∈ statements) →
        (runBranches patience choice.line otherwise branches).Faults (Explain statements)
  | [], _, _ => hotherwise
  | (condition, _) :: _, hown, h => by
      have hinner := List.forall_mem_append.mp h
      have hconditions := List.forall_mem_cons.mp hown
      refine faults_own hmem hconditions.1 (condition.stopsFor_condition ·) fun value => ?_
      cases value with
      | true => exact faults_runAll hinner.1
      | false => exact faults_runBranches hmem hotherwise hconditions.2 hinner.2

end

/-- A run of some statements ends with a fault of one of them. -/
theorem explain_of_runOn {σ : Type} (host : Host σ) (block : List Statement) (scope : Scope)
    (s : σ) : ∀ fault, ((runAll patience block scope).runOn host s).1.1 = some (.fault fault) →
      Explain (withInnerAll block) ((runAll patience block scope).runOn host s).1.2 fault :=
  (faults_runAll patience (fun _ => id) scope).runOn host (fun _ => trivial) s

end Statement

/-! ### Programs -/

theorem Line.malformed_of_ofTexts {n : Nat} {texts : List (List Char)} {fault : Fault}
    (h : ofTexts n texts = .error fault) : ∃ complaint, fault.cause = .malformed complaint := by
  induction texts generalizing n with
  | nil => cases h
  | cons text texts ih =>
      rw [ofTexts] at h
      split at h
      · cases h
        exact ⟨_, rfl⟩
      split at h
      · rename_i htexts
        cases h
        exact ih htexts
      · cases h

/-- What is wrong with a source that is no program is wrong with its form. -/
theorem Program.malformed_of_ofSource {source : String} {fault : Fault}
    (h : ofSource source = .error fault) : ∃ complaint, fault.cause = .malformed complaint := by
  rcases bind_eq_error.mp h with h | ⟨lines, -, h⟩
  · exact Line.malformed_of_ofTexts h
  · rcases Outline.check_eq_error (check_of_ofLines h) with
      ⟨_, line, _, _, -, -, henter⟩ | ⟨block, _, -, rfl⟩
    · obtain ⟨-, complaint, hcause, -⟩ := Line.isBlamed_enter henter
      exact ⟨complaint, hcause⟩
    · exact ⟨_, rfl⟩

namespace Interpreter

variable {σ : Type} {host : Host σ} {s : σ} {patience : Nat} {source : String} {fault : Fault}

/-- A fault that is not one of form is that of a statement of the program, and the causes are those
in the scope at the end. -/
theorem explain_of_script (h : ((script patience source).runOn host s).1 = .failed fault)
    (hform : ∀ complaint, fault.cause ≠ .malformed complaint) :
    ∃ program scope s', Program.ofSource source = .ok program ∧
      (Statement.runAll patience program []).runOn host s = ((some (.fault fault), scope), s') ∧
      Statement.Explain (Statement.withInnerAll program) scope fault := by
  unfold script at h
  split at h
  · rename_i other hsource
    obtain ⟨complaint, hcause⟩ := Program.malformed_of_ofSource hsource
    obtain rfl := Ending.failed.inj h
    exact (hform complaint hcause).elim
  · rename_i program hprogram
    rw [Dialogue.runOn_bind] at h
    have hfaults := Statement.explain_of_runOn patience host program [] s
    cases hrun : (Statement.runAll patience program []).runOn host s with
    | mk result s' =>
        obtain ⟨reason?, scope⟩ := result
        rw [hrun] at h hfaults
        have hreason : reason? = some (.fault fault) := by
          cases reason? with
          | none => cases h
          | some reason =>
              cases reason with
              | fault found => exact congrArg (some ∘ Stop.fault) (Ending.failed.inj h)
              | canceled | exhausted => cases h
        subst hreason
        exact ⟨program, scope, s', hprogram, hrun, hfaults fault rfl⟩

end Interpreter

end Pseudocode
