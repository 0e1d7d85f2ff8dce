import Pseudocode.Proofs.Remarks

/-!
Patience only cuts a run off. With more patience a program does all that it did with less, in the
same order, and goes on where it was cut off; so the runs of a program that never ends are all
prefixes of one another. And a run is cut off late: not before it has asked as often whether it was
canceled as it has patience, so these prefixes have no bound.
-/

namespace Pseudocode

namespace Dialogue

/-- Whether a dialogue is another one, cut off at some of its ends. -/
inductive Within {α : Type} (cut : α → Prop) : Dialogue α → Dialogue α → Prop
  | cut {a : α} (h : cut a) (d : Dialogue α) : Within cut (.done a) d
  | done (a : α) : Within cut (.done a) (.done a)
  | check {next next' : Bool → Dialogue α}
    (h : ∀ canceled, Within cut (next canceled) (next' canceled)) :
    Within cut (.check next) (.check next')
  | ask (prompt : String) {next next' : String → Dialogue α}
    (h : ∀ answer, Within cut (next answer) (next' answer)) :
    Within cut (.ask prompt next) (.ask prompt next')
  | tell (text : String) {next next' : Unit → Dialogue α} (h : Within cut (next ()) (next' ())) :
    Within cut (.tell text next) (.tell text next')

theorem Within.refl {α : Type} {cut : α → Prop} (d : Dialogue α) : Within cut d d := by
  induction d with
  | done a => exact .done a
  | check next ih => exact .check ih
  | ask prompt next ih => exact .ask prompt ih
  | tell text next ih => exact .tell text (ih ())

theorem Within.bind {α β : Type} {cut : α → Prop} {cut' : β → Prop} {d d' : Dialogue α}
    {f f' : α → Dialogue β} (h : Within cut d d')
    (hcut : ∀ a, cut a → ∃ b, f a = .done b ∧ cut' b) (hf : ∀ a, Within cut' (f a) (f' a)) :
    Within cut' (d >>= f) (d' >>= f') := by
  induction h with
  | cut h d =>
      obtain ⟨b, hb, hcut⟩ := hcut _ h
      rw [done_bind, hb]
      exact .cut hcut _
  | done a => exact hf a
  | check h ih => exact .check ih
  | ask prompt h ih => exact .ask prompt ih
  | tell text h ih => exact .tell text ih

/-- A run that is cut off says a prefix of what it would have said. -/
theorem Within.remarks_prefix {d d' : Dialogue Ending} (h : Within (· = .exhausted) d d')
    (capacity : Nat) (answers : List String) :
    (d.remarks capacity answers).IsPrefix (d'.remarks capacity answers) := by
  induction h generalizing answers with
  | cut h d =>
      subst h
      exact List.nil_prefix
  | done a => exact List.prefix_refl _
  | check h ih => exact ih false answers
  | ask prompt h ih => exact List.prefix_cons_inj _ |>.mpr (ih _ answers.tail)
  | tell text h ih => exact List.prefix_cons_inj _ |>.mpr (ih answers)

end Dialogue

namespace Action

/-- Whether an action is another one with less patience. -/
def Within (first second : Action) : Prop :=
  ∀ scope, Dialogue.Within (fun result => result.1 = some .exhausted) (first scope) (second scope)

variable {first first' second second' : Action}

theorem Within.refl (action : Action) : action.Within action := fun _ => .refl _

theorem within_stop_exhausted (action : Action) : (stop .exhausted).Within action :=
  fun _ => .cut (by rfl) _

theorem Within.andThen (hfirst : first.Within first') (hsecond : second.Within second') :
    (first.andThen second).Within (first'.andThen second') := by
  intro scope
  refine (hfirst scope).bind ?_ ?_
  · rintro ⟨reason?, scope⟩ rfl
    exact ⟨_, rfl, rfl⟩
  · rintro ⟨reason?, scope⟩
    cases reason? with
    | none => exact hsecond scope
    | some reason => exact .refl _

theorem Within.unlessCanceled (h : first.Within first') :
    (unlessCanceled first).Within (unlessCanceled first') := by
  refine fun scope => .check fun canceled => ?_
  cases canceled with
  | false => exact h scope
  | true => exact .refl _

theorem within_evaluate {α : Type} {line : Nat} {evaluation : Scope → Evaluation α}
    {next next' : α → Action} (h : ∀ a, (next a).Within (next' a)) :
    (evaluate line evaluation next).Within (evaluate line evaluation next') := by
  intro scope
  have hsame : Dialogue.Within (fun _ => False) (evaluation scope).run (evaluation scope).run :=
    .refl _
  refine hsame.bind (by simp) fun result => ?_
  cases result with
  | ok a => exact h a scope
  | error cause => exact .refl _

theorem Within.count (h : first.Within first') (name : String) (passes : Nat) (i : Int) :
    (count name first passes i).Within (count name first' passes i) := by
  induction passes generalizing i with
  | zero => exact .refl _
  | succ passes ih =>
      exact ((Within.refl (assign name _)).andThen (h.andThen (ih (i + 1)))).unlessCanceled

theorem Within.iterate (h : first.Within first') (line : Nat)
    (condition : Scope → Evaluation Bool) (stopAt : Bool) {patience patience' : Nat}
    (more : patience ≤ patience') :
    (iterate line condition stopAt first patience).Within
      (iterate line condition stopAt first' patience') := by
  induction patience generalizing patience' with
  | zero => exact within_stop_exhausted _
  | succ patience ih =>
      obtain ⟨patience', rfl⟩ : ∃ n, patience' = n + 1 := ⟨patience' - 1, by omega⟩
      refine (within_evaluate fun value scope => ?_).unlessCanceled
      split
      · exact .refl _
      · exact h.andThen (ih (by omega)) scope

end Action

namespace Statement

variable {patience patience' : Nat}

mutual

theorem within_run (more : patience ≤ patience') :
    ∀ statement : Statement, (run patience statement).Within (run patience' statement)
  -- Patience does not matter where there is no loop.
  | .output .. | .input _ (.var _) | .input _ (.prompt _) | .assign .. => .refl _
  | .choose line branches otherwise =>
      (within_runBranches more line (within_runAll more otherwise) branches).unlessCanceled
  | .count _ name _ _ body =>
      (Action.within_evaluate fun _ => Action.within_evaluate fun _ =>
        (within_runAll more body).count name _ _).unlessCanceled
  | .iterate line _ stopAt body =>
      ((within_runAll more body).iterate line _ stopAt more).unlessCanceled

theorem within_runAll (more : patience ≤ patience') :
    ∀ statements : List Statement, (runAll patience statements).Within (runAll patience' statements)
  | [] => .refl _
  | statement :: statements => (within_run more statement).andThen (within_runAll more statements)

theorem within_runBranches (more : patience ≤ patience') (line : Nat)
    {otherwise otherwise' : Action}
    (h : otherwise.Within otherwise') : ∀ branches : List (Expr × List Statement),
      (runBranches patience line otherwise branches).Within
        (runBranches patience' line otherwise' branches)
  | [] => h
  | (condition, body) :: branches => by
      refine Action.within_evaluate fun value scope => ?_
      split
      · exact within_runAll more body scope
      · exact within_runBranches more line h branches scope

end

end Statement

/-- With more patience a program goes on where it was cut off. -/
theorem Interpreter.script_within {patience patience' : Nat} (more : patience ≤ patience')
    (source : String) :
    Dialogue.Within (· = .exhausted) (script patience source) (script patience' source) := by
  unfold script
  split
  · exact .refl _
  · refine (Statement.within_runAll more _ []).bind ?_ ?_
    · rintro ⟨reason?, scope⟩ rfl
      exact ⟨_, rfl, rfl⟩
    · exact fun result => .refl _

/-- With more patience a program says all that it said with less, and goes on. -/
theorem Interpreter.script_remarks_prefix {patience patience' : Nat} (more : patience ≤ patience')
    (source : String) (capacity : Nat) (answers : List String) :
    ((script patience source).remarks capacity answers).IsPrefix
      ((script patience' source).remarks capacity answers) :=
  Dialogue.Within.remarks_prefix (script_within more source) capacity answers

namespace Dialogue

variable {α β : Type} {cut : α → Prop} {cut' : β → Prop} {d : Dialogue α} {f : α → Dialogue β}

/-- Whether a dialogue makes at least `n` checks before it is cut off. -/
def Endures (cut : α → Prop) : Nat → Dialogue α → Prop
  | n, done a => cut a → n = 0
  | n, check next => ∀ canceled, (next canceled).Endures cut (n - 1)
  | n, ask _ next => ∀ answer, (next answer).Endures cut n
  | n, tell _ next => (next ()).Endures cut n

theorem Endures.mono {m n : Nat} (h : d.Endures cut n) (hmn : m ≤ n) : d.Endures cut m := by
  induction d generalizing m n with
  | done a =>
      intro ha
      have hn : n = 0 := h ha
      omega
  | check next ih => exact fun canceled => ih canceled (h canceled) (by omega)
  | ask prompt next ih => exact fun answer => ih answer (h answer) hmn
  | tell text next ih => exact ih () h hmn

theorem Endures.bind {n : Nat} (h : d.Endures cut n) (hcut : ∀ a, cut a → (f a).Endures cut' 0)
    (hf : ∀ a, ¬cut a → (f a).Endures cut' n) : (d >>= f).Endures cut' n := by
  induction d generalizing n with
  | done a =>
      by_cases ha : cut a
      · have hn : n = 0 := h ha
        subst hn
        exact hcut a ha
      · exact hf a ha
  | check next ih =>
      exact fun canceled =>
        ih canceled (h canceled) fun a ha => (hf a ha).mono (Nat.sub_le n 1)
  | ask prompt next ih => exact fun answer => ih answer (h answer) hf
  | tell text next ih => exact ih () h hf

/-- A dialogue that is never cut off endures anything. -/
theorem endures_of_never (d : Dialogue α) (n : Nat) : d.Endures (fun _ => False) n := by
  induction d generalizing n with
  | done a => exact False.elim
  | check next ih => exact fun canceled => ih canceled (n - 1)
  | ask prompt next ih => exact fun answer => ih answer n
  | tell text next ih => exact ih () n

end Dialogue

namespace Action

def Endures (n : Nat) (action : Action) : Prop :=
  ∀ scope, (action scope).Endures (fun result => result.1 = some .exhausted) n

variable {n : Nat} {first second : Action}

theorem endures_stop {reason : Stop} (h : reason ≠ .exhausted) (n : Nat) :
    (stop reason).Endures n :=
  fun _ hreason => (h (Option.some.inj hreason)).elim

theorem Endures.andThen (hfirst : first.Endures n) (hsecond : second.Endures n) :
    (first.andThen second).Endures n := by
  intro scope
  refine (hfirst scope).bind ?_ ?_
  · rintro ⟨reason?, scope⟩ rfl _
    rfl
  · rintro ⟨reason?, scope⟩ hreason
    cases reason? with
    | none => exact hsecond scope
    | some reason => exact fun h => (hreason h).elim

/-- The check counts. -/
theorem Endures.unlessCanceled (h : first.Endures n) : (unlessCanceled first).Endures (n + 1) := by
  intro scope canceled
  cases canceled with
  | false => exact h scope
  | true => exact endures_stop (by simp) n scope

theorem endures_evaluate {α : Type} (line : Nat) (evaluation : Scope → Evaluation α)
    {next : α → Action} (h : ∀ a, (next a).Endures n) :
    (evaluate line evaluation next).Endures n := by
  intro scope
  refine ((evaluation scope).run.endures_of_never n).bind (by simp) fun result _ => ?_
  cases result with
  | ok a => exact h a scope
  | error cause =>
      have hstop : (stop (.fault ⟨line, cause⟩)).Endures n := endures_stop (by simp) n
      exact hstop scope

/-- Each pass makes a check, and uses up one unit of patience. -/
theorem Endures.iterate {body : Action} {patience : Nat} (h : body.Endures patience) (line : Nat)
    (condition : Scope → Evaluation Bool) (stopAt : Bool) :
    (iterate line condition stopAt body patience).Endures patience := by
  induction patience with
  | zero => exact fun _ _ => rfl
  | succ patience ih =>
      have hbody : body.Endures patience := fun scope => (h scope).mono (Nat.le_succ patience)
      refine (endures_evaluate line condition fun value scope => ?_).unlessCanceled
      split
      · rintro ⟨⟩
      · exact hbody.andThen (ih hbody) scope

theorem closed_endures (patience : Nat) : Closed patience (Endures patience) where
  skip := by rintro scope ⟨⟩
  andThen := Endures.andThen
  unlessCanceled := fun h scope => (h.unlessCanceled scope).mono (Nat.le_succ patience)
  evaluate := fun line evaluation _ _ h => endures_evaluate line evaluation h
  assign := by rintro name value scope ⟨⟩
  tell := by rintro text scope ⟨⟩
  ask := fun _ _ h scope answer => h answer scope
  iterate := fun line condition stopAt _ _ h => h.iterate line condition stopAt

end Action

theorem Ending.ofStop_ne_exhausted {reason : Stop} (h : reason ≠ .exhausted) :
    ofStop reason ≠ .exhausted := by
  cases reason with
  | exhausted => exact (h rfl).elim
  | fault | canceled => exact Ending.noConfusion

/-- A program is not cut off before it has made as many checks as it has patience. -/
theorem Interpreter.script_endures (patience : Nat) (source : String) :
    (script patience source).Endures (· = .exhausted) patience := by
  unfold script
  split
  · exact Ending.noConfusion
  · rename_i statements _
    refine (Statement.runAll_of_closed (Action.closed_endures patience) statements []).bind ?_ ?_
    · rintro ⟨reason?, scope⟩ rfl _
      rfl
    · rintro ⟨reason?, scope⟩ hreason
      cases reason? with
      | none => exact Ending.noConfusion
      | some reason =>
          have hending : Ending.ofStop reason ≠ .exhausted :=
            Ending.ofStop_ne_exhausted fun h => hreason (congrArg some h)
          exact fun h => (hending h).elim

end Pseudocode
