import Pseudocode.Proofs.Faults

/-!
What a run does to the variables. All that it does to them are assignments, one after the other:
those of assignment statements, the answers to inputs with a name, and the numbers of counting
loops. The journal of a run is the same dialogue, but it ends with the assignments that were made in
place of the scope that they lead to. So a run changes no variable that its statements do not name
as a target, however it ends, and no variable is lost.
-/

namespace Pseudocode

/-- A value that a run gives to a variable. -/
abbrev Assignment := String × Value

namespace Scope

/-- What is left of a scope when all its variables are dropped. -/
def clear (_ : Scope) : Scope := []

/-- The scope after some assignments, the first one first. -/
def after (scope : Scope) (made : List Assignment) : Scope :=
  made.foldl (fun scope assignment => scope.set assignment.1 assignment.2) scope

variable (scope : Scope) (made more : List Assignment) (name : String) (value : Value)

@[simp] theorem after_nil : scope.after [] = scope := rfl

@[simp] theorem after_cons :
    scope.after ((name, value) :: made) = (scope.set name value).after made := rfl

theorem after_append : scope.after (made ++ more) = (scope.after made).after more :=
  List.foldl_append

variable {scope made name}

/-- A variable that is not assigned to is what it was. -/
theorem get?_after_of_forall_ne (h : ∀ assignment ∈ made, assignment.1 ≠ name) :
    (scope.after made).get? name = scope.get? name := by
  induction made generalizing scope with
  | nil => rfl
  | cons assignment made ih =>
      obtain ⟨hne, hmade⟩ := List.forall_mem_cons.mp h
      rw [after_cons, ih hmade, get?_set, if_neg hne]

theorem get?_after_ne_none (h : scope.get? name ≠ none) : (scope.after made).get? name ≠ none := by
  induction made generalizing scope with
  | nil => exact h
  | cons assignment made ih =>
      refine ih ?_
      rw [get?_set]
      split
      · exact Option.some_ne_none _
      · exact h

/-- A variable that has been assigned to is defined. -/
theorem get?_after_of_mem {value : Value} (h : (name, value) ∈ made) :
    (scope.after made).get? name ≠ none := by
  induction made generalizing scope with
  | nil => cases h
  | cons assignment made ih =>
      rcases List.mem_cons.mp h with rfl | h
      · rw [after_cons]
        exact get?_after_ne_none (by rw [get?_set, if_pos rfl]; exact Option.some_ne_none value)
      · exact ih h

end Scope

/-! ### Journals -/

/-- What running some statements does, with the assignments that it makes. -/
abbrev Journal := Scope → Dialogue (Option Stop × List Assignment)

namespace Journal

def skip : Journal := fun _ => .done (none, [])

def stop (reason : Stop) : Journal := fun _ => .done (some reason, [])

/-- `first`, and then `second` unless the run has stopped, in the scope that `first` leads to. -/
def andThen (first second : Journal) : Journal := fun scope => do
  match ← first scope with
  | (none, made) => do
    let (reason?, more) ← second (scope.after made)
    return (reason?, made ++ more)
  | (some reason, made) => return (some reason, made)

def unlessCanceled (journal : Journal) : Journal := fun scope =>
  .check fun canceled => if canceled then stop .canceled scope else journal scope

def evaluate {α : Type} (line : Nat) (evaluation : Scope → Evaluation α) (next : α → Journal) :
    Journal := fun scope => do
  match ← (evaluation scope).run with
  | .ok a => next a scope
  | .error cause => stop (.fault ⟨line, cause⟩) scope

def assign (name : String) (value : Value) : Journal := fun _ =>
  .done (none, [(name, value)])

def tell (text : String) : Journal := fun scope =>
  .tell text fun _ => skip scope

def ask (prompt : String) (next : String → Journal) : Journal := fun scope =>
  .ask prompt fun answer => next answer scope

def count (name : String) (body : Journal) : Nat → Int → Journal
  | 0, _ => skip
  | passes + 1, i =>
    unlessCanceled fun scope =>
      (assign name (.number (.ofInt i))).andThen
        (body.andThen (count name body passes (i + 1))) scope

def iterate (line : Nat) (condition : Scope → Evaluation Bool) (stopAt : Bool) (body : Journal) :
    Nat → Journal
  | 0 => stop .exhausted
  | patience + 1 =>
    unlessCanceled <| evaluate line condition fun value scope =>
      if value == stopAt then skip scope
      else body.andThen (iterate line condition stopAt body patience) scope

end Journal

namespace Statement

mutual

/-- A statement as `run` has it, with the assignments that it makes. -/
def journal (patience : Nat) : Statement → Journal
  | .output line arguments =>
    Journal.unlessCanceled <| Journal.evaluate line (Expr.line · arguments) Journal.tell
  | .input _ (.var name) =>
    Journal.unlessCanceled <| Journal.ask name fun answer => Journal.assign name (.ofAnswer answer)
  | .input line (.prompt prompt) =>
    Journal.unlessCanceled <| Journal.evaluate line prompt.eval fun v =>
      Journal.ask v.display fun _ => Journal.skip
  | .assign line name value =>
    Journal.unlessCanceled <| Journal.evaluate line value.eval (Journal.assign name)
  | .choose line branches otherwise =>
    Journal.unlessCanceled (journalBranches patience line (journalAll patience otherwise) branches)
  | .count line name first last body =>
    Journal.unlessCanceled <| Journal.evaluate line first.bound fun a =>
      Journal.evaluate line last.bound fun b =>
        Journal.count name (journalAll patience body) (b + 1 - a).toNat a
  | .iterate line condition stopAt body =>
    Journal.unlessCanceled <|
      Journal.iterate line condition.condition stopAt (journalAll patience body) patience

def journalAll (patience : Nat) : List Statement → Journal
  | [] => Journal.skip
  | statement :: statements =>
    (journal patience statement).andThen (journalAll patience statements)

def journalBranches (patience line : Nat) (otherwise : Journal) :
    List (Expr × List Statement) → Journal
  | [] => otherwise
  | (condition, body) :: branches =>
    Journal.evaluate line condition.condition fun value =>
      if value then journalAll patience body else journalBranches patience line otherwise branches

end

end Statement

namespace Journal

/-- What is left of a journal if only the scope is kept that the assignments lead to. -/
def effect (journal : Journal) : Action := fun scope => do
  let (reason?, made) ← journal scope
  return (reason?, scope.after made)

theorem effect_andThen (first second : Journal) :
    (first.andThen second).effect = first.effect.andThen second.effect := by
  funext scope
  show (first scope >>= _) >>= _ = (first scope >>= _) >>= _
  rw [Dialogue.bind_assoc, Dialogue.bind_assoc]
  congr 1
  funext ⟨reason?, made⟩
  cases reason? with
  | none =>
      show (second (scope.after made) >>= _) >>= _ = second (scope.after made) >>= _
      rw [Dialogue.bind_assoc]
      congr 1
      funext ⟨reason?, more⟩
      exact congrArg (fun scope => Dialogue.done (reason?, scope))
        (Scope.after_append scope made more)
  | some reason => rfl

theorem effect_unlessCanceled (journal : Journal) :
    (unlessCanceled journal).effect = Action.unlessCanceled journal.effect := by
  funext scope
  refine congrArg Dialogue.check (funext fun canceled => ?_)
  cases canceled <;> rfl

theorem effect_evaluate {α : Type} (line : Nat) (evaluation : Scope → Evaluation α)
    (next : α → Journal) :
    (evaluate line evaluation next).effect =
      Action.evaluate line evaluation fun a => (next a).effect := by
  funext scope
  show ((evaluation scope).run >>= _) >>= _ = (evaluation scope).run >>= _
  rw [Dialogue.bind_assoc]
  congr 1
  funext result
  cases result <;> rfl

theorem effect_count (name : String) (body : Journal) (passes : Nat) (i : Int) :
    (count name body passes i).effect = Action.count name body.effect passes i := by
  induction passes generalizing i with
  | zero => rfl
  | succ passes ih =>
      have hrest := effect_andThen body (count name body passes (i + 1))
      rw [ih (i + 1)] at hrest
      refine (effect_unlessCanceled _).trans (congrArg Action.unlessCanceled ?_)
      refine (effect_andThen (assign name (.number (.ofInt i))) _).trans ?_
      exact congrArg (Action.andThen _) hrest

theorem effect_iterate (line : Nat) (condition : Scope → Evaluation Bool) (stopAt : Bool)
    (body : Journal) (patience : Nat) :
    (iterate line condition stopAt body patience).effect =
      Action.iterate line condition stopAt body.effect patience := by
  induction patience with
  | zero => rfl
  | succ patience ih =>
      have hrest := effect_andThen body (iterate line condition stopAt body patience)
      rw [ih] at hrest
      refine (effect_unlessCanceled _).trans (congrArg Action.unlessCanceled ?_)
      refine (effect_evaluate line condition _).trans (congrArg (Action.evaluate _ condition) ?_)
      funext value scope
      rw [← congrFun hrest scope]
      unfold effect
      split <;> rfl

end Journal

namespace Statement

variable (patience : Nat)

mutual

/-- A statement does to the scope what its assignments do. -/
theorem effect_journal : ∀ statement : Statement,
    (journal patience statement).effect = run patience statement
  | .output line arguments => by
      rw [journal, run, Journal.effect_unlessCanceled, Journal.effect_evaluate]
      rfl
  | .input _ (.var name) => by
      rw [journal, run, Journal.effect_unlessCanceled]
      rfl
  | .input line (.prompt prompt) => by
      rw [journal, run, Journal.effect_unlessCanceled, Journal.effect_evaluate]
      rfl
  | .assign line name value => by
      rw [journal, run, Journal.effect_unlessCanceled, Journal.effect_evaluate]
      rfl
  | .choose line branches otherwise => by
      rw [journal, run, Journal.effect_unlessCanceled, effect_journalBranches line branches,
        effect_journalAll otherwise]
  | .count line name first last body => by
      rw [journal, run, Journal.effect_unlessCanceled, Journal.effect_evaluate]
      simp only [Journal.effect_evaluate, Journal.effect_count, effect_journalAll body]
  | .iterate line condition stopAt body => by
      rw [journal, run, Journal.effect_unlessCanceled, Journal.effect_iterate,
        effect_journalAll body]

theorem effect_journalAll : ∀ statements : List Statement,
    (journalAll patience statements).effect = runAll patience statements
  | [] => rfl
  | statement :: statements => by
      rw [journalAll, runAll, Journal.effect_andThen, effect_journal statement,
        effect_journalAll statements]

theorem effect_journalBranches (line : Nat) {otherwise : Journal} :
    ∀ branches : List (Expr × List Statement),
      (journalBranches patience line otherwise branches).effect =
        runBranches patience line otherwise.effect branches
  | [] => rfl
  | (condition, body) :: branches => by
      rw [journalBranches, runBranches, Journal.effect_evaluate, ← effect_journalAll body,
        ← effect_journalBranches line branches]
      congr 1
      funext value
      cases value <;> rfl

end

end Statement

/-! ### Targets -/

namespace Journal

variable {targets : List String} {journal first second : Journal}

/-- Whether the assignments are to some variables only. -/
def To (targets : List String) (journal : Journal) : Prop :=
  ∀ scope, (journal scope).Ends (fun _ => True) fun result =>
    ∀ assignment ∈ result.2, assignment.1 ∈ targets

theorem to_stop (reason : Stop) : (stop reason).To targets := fun _ _ h => nomatch h

theorem to_skip : skip.To targets := fun _ _ h => nomatch h

theorem to_assign {name : String} (value : Value) (h : name ∈ targets) :
    (assign name value).To targets :=
  fun _ => List.forall_mem_singleton.mpr h

theorem to_tell (text : String) : (tell text).To targets := fun _ _ h => nomatch h

theorem to_ask (prompt : String) {next : String → Journal}
    (h : ∀ answer, (next answer).To targets) : (ask prompt next).To targets :=
  fun scope answer => h answer scope

theorem To.andThen (h : first.To targets) (h' : second.To targets) :
    (first.andThen second).To targets := by
  intro scope
  refine (h scope).bind fun result hmade => ?_
  obtain ⟨reason?, made⟩ := result
  cases reason? with
  | none =>
      exact (h' _).bind fun result hmore => List.forall_mem_append.mpr ⟨hmade, hmore⟩
  | some reason => exact hmade

theorem To.unlessCanceled (h : journal.To targets) : (unlessCanceled journal).To targets := by
  intro scope canceled _
  cases canceled with
  | true => exact to_stop _ scope
  | false => exact h scope

/-- The evaluation of an expression makes no assignment. -/
theorem to_evaluate {α : Type} (line : Nat) (evaluation : Scope → Evaluation α)
    {next : α → Journal} (h : ∀ a, (next a).To targets) :
    (evaluate line evaluation next).To targets := by
  intro scope
  refine Dialogue.ends_bind_of_forall _ fun result => ?_
  cases result with
  | ok a => exact h a scope
  | error cause => exact to_stop _ scope

theorem To.count (h : journal.To targets) {name : String} (hname : name ∈ targets) (passes : Nat)
    (i : Int) : (count name journal passes i).To targets := by
  induction passes generalizing i with
  | zero => exact to_skip
  | succ passes ih => exact ((to_assign _ hname).andThen (h.andThen (ih _))).unlessCanceled

theorem To.iterate (h : journal.To targets) (line : Nat) (condition : Scope → Evaluation Bool)
    (stopAt : Bool) (patience : Nat) :
    (iterate line condition stopAt journal patience).To targets := by
  induction patience with
  | zero => exact to_stop _
  | succ patience ih =>
      refine (to_evaluate line condition fun value scope => ?_).unlessCanceled
      split
      · exact to_skip scope
      · exact h.andThen ih scope

end Journal

namespace Statement

/-- The variable that a statement gives values to. -/
def target? : Statement → Option String
  | assign _ name _ | input _ (.var name) | count _ name .. => some name
  | input _ (.prompt _) | output .. | choose .. | iterate .. => none

/-- The variables that some statements, or those in them, give values to. -/
def targets (statements : List Statement) : List String :=
  (withInnerAll statements).filterMap target?

variable {names : List String} (patience : Nat)

mutual

theorem journal_to : ∀ {statement : Statement},
    (∀ inner ∈ statement.withInner, ∀ name ∈ inner.target?, name ∈ names) →
      (journal patience statement).To names
  | .output line _, _ => (Journal.to_evaluate line _ Journal.to_tell).unlessCanceled
  | .input _ (.var name), h =>
      have hname := (List.forall_mem_singleton.mp h) name rfl
      (Journal.to_ask name fun _ => Journal.to_assign _ hname).unlessCanceled
  | .input line (.prompt _), _ =>
      (Journal.to_evaluate line _ fun _ => Journal.to_ask _ fun _ => Journal.to_skip).unlessCanceled
  | .assign line name _, h =>
      have hname := (List.forall_mem_singleton.mp h) name rfl
      (Journal.to_evaluate line _ fun _ => Journal.to_assign _ hname).unlessCanceled
  | .choose line _ _, h =>
      have hinner := List.forall_mem_append.mp (List.forall_mem_cons.mp h).2
      (journalBranches_to line (journalAll_to hinner.2) hinner.1).unlessCanceled
  | .count line name _ _ _, h =>
      have hinner := List.forall_mem_cons.mp h
      (Journal.to_evaluate line _ fun _ => Journal.to_evaluate line _ fun _ =>
        (journalAll_to hinner.2).count (hinner.1 name rfl) _ _).unlessCanceled
  | .iterate line condition stopAt _, h =>
      have hinner := List.forall_mem_cons.mp h
      ((journalAll_to hinner.2).iterate line condition.condition stopAt patience).unlessCanceled

theorem journalAll_to : ∀ {statements : List Statement},
    (∀ inner ∈ withInnerAll statements, ∀ name ∈ inner.target?, name ∈ names) →
      (journalAll patience statements).To names
  | [], _ => Journal.to_skip
  | _ :: _, h =>
      have hinner := List.forall_mem_append.mp h
      (journal_to hinner.1).andThen (journalAll_to hinner.2)

theorem journalBranches_to (line : Nat) {otherwise : Journal} (hotherwise : otherwise.To names) :
    ∀ {branches : List (Expr × List Statement)},
      (∀ inner ∈ innerOfBranches branches, ∀ name ∈ inner.target?, name ∈ names) →
        (journalBranches patience line otherwise branches).To names
  | [], _ => hotherwise
  | (condition, body) :: branches, h => by
      have hinner := List.forall_mem_append.mp h
      refine Journal.to_evaluate line condition.condition fun value => ?_
      cases value with
      | true => exact journalAll_to hinner.1
      | false => exact journalBranches_to line hotherwise hinner.2

end

theorem journalAll_to_targets (statements : List Statement) :
    (journalAll patience statements).To (targets statements) :=
  journalAll_to patience fun inner hinner _ hname =>
    List.mem_filterMap.mpr ⟨inner, hinner, hname⟩

/-- What some statements do to the variables, as their assignments have it. -/
theorem runOn_journalAll {σ : Type} (host : Host σ) (statements : List Statement) (scope : Scope)
    (s : σ) : ∃ reason? made s',
      (journalAll patience statements scope).runOn host s = ((reason?, made), s') ∧
      (runAll patience statements scope).runOn host s = ((reason?, scope.after made), s') ∧
      (∀ assignment ∈ made, assignment.1 ∈ targets statements) ∧
      ∀ line name, reason? = some (.fault ⟨line, .unknownVariable name⟩) →
        scope.get? name = none ∧ ∀ value, (name, value) ∉ made := by
  have hto := (journalAll_to_targets patience statements scope).runOn host (fun _ => trivial) s
  have hfaults := explain_of_runOn patience host statements scope s
  have hrun : (runAll patience statements scope).runOn host s =
      (let (result, s') := (journalAll patience statements scope).runOn host s
       ((result.1, scope.after result.2), s')) := by
    rw [← effect_journalAll]
    exact Dialogue.runOn_bind host _ _ s
  cases hjournal : (journalAll patience statements scope).runOn host s with
  | mk result s' =>
      obtain ⟨reason?, made⟩ := result
      rw [hjournal] at hto hrun
      rw [hrun] at hfaults
      refine ⟨reason?, made, s', rfl, hrun, hto, fun line name hreason => ?_⟩
      -- At the end the variable is still not defined, and what is defined once stays so.
      obtain ⟨statement, -, -, hraises⟩ := hfaults _ hreason
      obtain ⟨_, _, -, hunknown⟩ := hraises.resolve_right fun h => nomatch h.2
      exact ⟨by_contra fun h => Scope.get?_after_ne_none h hunknown,
        fun value hmem => Scope.get?_after_of_mem hmem hunknown⟩

end Statement

/-! ### Programs -/

namespace Interpreter

/-- A program with the assignments that it makes. -/
def journal (patience : Nat) (source : String) : Dialogue (Ending × List Assignment) :=
  match Program.ofSource source with
  | .error fault => .done (.failed fault, [])
  | .ok statements => do
    match ← Statement.journalAll patience statements [] with
    | (none, made) => return (.finished summary, made)
    | (some reason, made) => return (.ofStop reason, made)

/-- A run of an interpreter that keeps its variables. Those of the run before are still there when
the run begins, and it clears them before it reads the source. -/
def rerun (patience : Nat) (source : String) (kept : Scope) : Dialogue (Ending × Scope) :=
  let scope := kept.clear
  match Program.ofSource source with
  | .error fault => .done (.failed fault, scope)
  | .ok statements => do
    match ← Statement.runAll patience statements scope with
    | (none, scope) => return (.finished summary, scope)
    | (some reason, scope) => return (.ofStop reason, scope)

variable {σ : Type} (host : Host σ) (patience : Nat)

theorem rerun_eq (source : String) (kept : Scope) :
    rerun patience source kept = journal patience source >>= fun (ending, made) =>
      .done (ending, Scope.after [] made) := by
  unfold rerun journal
  cases Program.ofSource source with
  | error fault => rfl
  | ok statements =>
      dsimp only
      rw [← Statement.effect_journalAll]
      show (Statement.journalAll patience statements [] >>= _) >>= _ =
        (Statement.journalAll patience statements [] >>= _) >>= _
      rw [Dialogue.bind_assoc, Dialogue.bind_assoc]
      congr 1
      funext ⟨reason?, made⟩
      cases reason? <;> rfl

theorem script_eq (source : String) (kept : Scope) :
    script patience source = rerun patience source kept >>= fun (ending, _) => .done ending := by
  unfold script rerun
  cases Program.ofSource source with
  | error fault => rfl
  | ok statements =>
      show Statement.runAll patience statements [] >>= _ =
        (Statement.runAll patience statements [] >>= _) >>= _
      rw [Dialogue.bind_assoc]
      congr 1
      funext ⟨reason?, scope⟩
      cases reason? <;> rfl

/-- A run that ends with an unknown variable has made no assignment to it. -/
theorem not_assigned_of_unknown {source : String} {s s' : σ} {ending : Ending}
    {made : List Assignment} (h : (journal patience source).runOn host s = ((ending, made), s'))
    {line : Nat} {name : String} (hending : ending = .failed ⟨line, .unknownVariable name⟩)
    (value : Value) : (name, value) ∉ made := by
  unfold journal at h
  split at h
  · cases h
    exact List.not_mem_nil
  · rename_i program _
    obtain ⟨reason?, made', s'', hjournal, -, -, hunknown⟩ :=
      Statement.runOn_journalAll patience host program [] s
    rw [Dialogue.runOn_bind, hjournal] at h
    subst hending
    cases reason? with
    | none => cases h
    | some reason =>
        cases reason with
        | canceled | exhausted => cases h
        | fault fault =>
            cases h
            exact (hunknown line name rfl).2 value

/-- Programs change only the variables that they name. Whatever a host answers and however a run
ends, all that is done to the variables are the assignments of the journal: they are to targets of
the statements, so any other variable keeps its value, or stays undefined, and a variable that was
defined is defined at the end. The evaluation of an expression goes on in the scope that it began
in. A run that ends with an unknown variable began without it and has made no assignment to it; so
each run of an interpreter does, whatever variables the run before has left. -/
theorem changes_only_targets :
    (∀ statements scope s, ∃ reason? made s',
      (Statement.journalAll patience statements scope).runOn host s = ((reason?, made), s') ∧
      (Statement.runAll patience statements scope).runOn host s =
        ((reason?, scope.after made), s') ∧
      (∀ assignment ∈ made, assignment.1 ∈ Statement.targets statements) ∧
      (∀ name ∉ Statement.targets statements,
        (scope.after made).get? name = scope.get? name) ∧
      (∀ name, scope.get? name ≠ none → (scope.after made).get? name ≠ none) ∧
      ∀ line name, reason? = some (.fault ⟨line, .unknownVariable name⟩) →
        scope.get? name = none ∧ ∀ value, (name, value) ∉ made) ∧
    (∀ {α : Type} line (evaluation : Scope → Evaluation α) next scope s,
      (Action.evaluate line evaluation next scope).runOn host s =
        match (evaluation scope).run.runOn host s with
        | (.error cause, s) => ((some (.fault ⟨line, cause⟩), scope), s)
        | (.ok a, s) => (next a scope).runOn host s) ∧
    ∀ source s, ∃ ending made s',
      (journal patience source).runOn host s = ((ending, made), s') ∧
      (∀ kept, (rerun patience source kept).runOn host s =
        ((ending, Scope.after [] made), s')) ∧
      (script patience source).runOn host s = (ending, s') ∧
      ∀ line name, ending = .failed ⟨line, .unknownVariable name⟩ →
        ∀ value, (name, value) ∉ made := by
  refine ⟨fun statements scope s => ?_, Statement.runOn_evaluate host, fun source s => ?_⟩
  · obtain ⟨reason?, made, s', hjournal, hrun, htargets, hunknown⟩ :=
      Statement.runOn_journalAll patience host statements scope s
    refine ⟨reason?, made, s', hjournal, hrun, htargets, fun name hname => ?_,
      fun name => Scope.get?_after_ne_none, hunknown⟩
    refine Scope.get?_after_of_forall_ne fun assignment hmem heq => hname ?_
    exact heq ▸ htargets assignment hmem
  · cases hjournal : (journal patience source).runOn host s with
    | mk result s' =>
        obtain ⟨ending, made⟩ := result
        have hrerun (kept : Scope) : (rerun patience source kept).runOn host s =
            ((ending, Scope.after [] made), s') := by
          rw [rerun_eq, Dialogue.runOn_bind, hjournal]
          rfl
        refine ⟨ending, made, s', rfl, hrerun, ?_, fun line name hending =>
          not_assigned_of_unknown host patience hjournal hending⟩
        rw [script_eq patience source [], Dialogue.runOn_bind, hrerun]
        rfl

/-- A program that reads a variable that it never sets. -/
def forgetful : String :=
  "loop i from 1 to 2
input x
i = x
end loop
output i + y"

/-- The loop of that program. -/
def lent : List Statement :=
  [.count 1 "i" (.number (.ofInt 1)) (.number (.ofInt 2))
    [.input 2 (.var "x"), .assign 3 "i" (.var "x")]]

theorem changes_only_targets_forgetful :
    (∃ made calls, (Statement.journalAll 0 lent [("z", .truth true)]).runOn
          (.recording (fun _ => "7") fun calls => calls.length = 6) [] =
        ((some .canceled, made), calls) ∧
      made.map Prod.fst = ["i", "x", "i", "i"] ∧
      (Scope.after [("z", .truth true)] made).get? "z" = some (.truth true)) ∧
    ∃ made calls, (journal 0 forgetful).runOn (.recording (fun _ => "7") fun _ => false) [] =
        ((.failed ⟨5, .unknownVariable "y"⟩, made), calls) ∧
      made.map Prod.fst = ["i", "x", "i", "i", "x", "i"] ∧ ∀ value, ("y", value) ∉ made := by
  constructor
  · obtain ⟨hblock, -, -⟩ :=
      changes_only_targets (.recording (fun _ => "7") fun calls => calls.length = 6) 0
    obtain ⟨reason?, made, calls, hjournal, -, -, hkeeps, -⟩ := hblock lent [("z", .truth true)] []
    have hrun : ((Statement.journalAll 0 lent [("z", .truth true)]).runOn
        (.recording (fun _ => "7") fun calls => calls.length = 6) []).1 =
          (some .canceled, [("i", .number (.ofInt 1)), ("x", .number (.ofInt 7)),
            ("i", .number (.ofInt 7)), ("i", .number (.ofInt 2))]) := by
      decide +kernel
    rw [hjournal] at hrun
    cases hrun
    exact ⟨_, calls, hjournal, rfl, hkeeps "z" (by decide)⟩
  · obtain ⟨-, -, hsource⟩ := changes_only_targets (.recording (fun _ => "7") fun _ => false) 0
    obtain ⟨ending, made, calls, hjournal, -, -, hunknown⟩ := hsource forgetful []
    have hrun : ((journal 0 forgetful).runOn (.recording (fun _ => "7") fun _ => false) []).1 =
        (.failed ⟨5, .unknownVariable "y"⟩, [("i", .number (.ofInt 1)), ("x", .number (.ofInt 7)),
          ("i", .number (.ofInt 7)), ("i", .number (.ofInt 2)), ("x", .number (.ofInt 7)),
          ("i", .number (.ofInt 7))]) := by
      decide +kernel
    rw [hjournal] at hrun
    cases hrun
    exact ⟨_, calls, hjournal, rfl, hunknown 5 "y" rfl⟩

end Interpreter

end Pseudocode
