import Pseudocode.Proofs.Cancellation
import Pseudocode.Proofs.Counting

/-!
How often a program checks whether it was canceled. Whatever a host answers, a program begins with a
check, and what it does after one check and before the next is the work of one statement: no more
questions than there are in the expressions of the statement, and one more if it is an input
statement, and then at most one line. A loop makes a check for each pass, so it cannot go on without
one even if there is nothing in it.
-/

namespace Pseudocode

/-! ### Calls -/

namespace Dialogue

variable {σ α β : Type} (host : Host σ)

/-- The calls that a dialogue makes when it is run on a host. -/
def calls : Dialogue α → σ → List HostCall
  | done _, _ => []
  | check next, s => .check :: (next (host.check s).1).calls (host.check s).2
  | ask prompt next, s => .ask prompt :: (next (host.ask prompt s).1).calls (host.ask prompt s).2
  | tell text next, s => .tell text :: (next ()).calls (host.tell text s)

theorem calls_bind (d : Dialogue α) (f : α → Dialogue β) (s : σ) :
    (d >>= f).calls host s =
      d.calls host s ++ (f (d.runOn host s).1).calls host (d.runOn host s).2 := by
  induction d generalizing s with
  | done a => rfl
  | check next ih | ask prompt next ih | tell text next ih => exact congrArg _ (ih _ _)

/-- A dialogue that is cut off has made as many checks as it endures. -/
theorem Endures.le_count_check {cut : α → Prop} {n : Nat} {d : Dialogue α} (h : d.Endures cut n)
    {s : σ} (hcut : cut (d.runOn host s).1) : n ≤ (d.calls host s).count .check := by
  induction d generalizing n s with
  | done a => exact Nat.le_of_eq (h hcut)
  | check next ih =>
      have hnext := ih _ (h _) hcut
      rw [calls, List.count_cons_self]
      omega
  | ask prompt next ih =>
      rw [calls, List.count_cons_of_ne (by simp)]
      exact ih _ (h _) hcut
  | tell text next ih =>
      rw [calls, List.count_cons_of_ne (by simp)]
      exact ih () h hcut

end Dialogue

namespace HostCall

def isTell : HostCall → Bool
  | tell _ => true
  | check | ask _ => false

/-- Whether some calls are at most `n` questions and nothing else. -/
structure AreAsks (n : Nat) (calls : List HostCall) : Prop where
  all : ∀ call ∈ calls, call.isAsk = true
  few : calls.length ≤ n

/-- Whether some calls are at most `n` questions, and at most one line, which comes after all of the
questions. -/
structure IsSpan (n : Nat) (calls : List HostCall) : Prop where
  unchecked : .check ∉ calls
  asks : calls.countP isAsk ≤ n
  tells : calls.countP isTell ≤ 1
  order : calls.Pairwise fun earlier later => earlier.isTell = true → later.isAsk = false

variable {m n : Nat} {calls calls' span : List HostCall}

theorem areAsks_nil (n : Nat) : AreAsks n [] := ⟨by simp, Nat.zero_le n⟩

theorem AreAsks.append (h : AreAsks m calls) (h' : AreAsks n calls') :
    AreAsks (m + n) (calls ++ calls') := by
  refine ⟨List.forall_mem_append.mpr ⟨h.all, h'.all⟩, ?_⟩
  rw [List.length_append]
  exact Nat.add_le_add h.few h'.few

theorem AreAsks.isTell_eq_false (h : AreAsks n calls) : ∀ call ∈ calls, call.isTell = false := by
  intro call hcall
  have hask := h.all call hcall
  cases call with
  | ask => rfl
  | check | tell => cases hask

theorem isSpan_nil (n : Nat) : IsSpan n [] := ⟨by simp, Nat.zero_le n, Nat.zero_le 1, .nil⟩

theorem isSpan_tell (text : String) : IsSpan 0 [.tell text] :=
  ⟨by simp, Nat.le_refl 0, Nat.le_refl 1, List.pairwise_singleton ..⟩

theorem IsSpan.of_prefix (h : IsSpan n span) (hcalls : calls <+: span) : IsSpan n calls :=
  ⟨fun hcheck => h.unchecked (hcalls.mem hcheck), hcalls.sublist.countP_le.trans h.asks,
    hcalls.sublist.countP_le.trans h.tells, h.order.sublist hcalls.sublist⟩

/-- What comes after questions comes after all of them. -/
theorem AreAsks.append_isSpan (h : AreAsks m calls) (hspan : IsSpan n span) :
    IsSpan (m + n) (calls ++ span) := by
  have hnone : calls.countP isTell = 0 :=
    List.countP_eq_zero.mpr fun call hcall => by simp [h.isTell_eq_false call hcall]
  refine ⟨?_, ?_, ?_, ?_⟩
  · intro hcheck
    rcases List.mem_append.mp hcheck with hask | hrest
    · exact Bool.noConfusion (h.all _ hask)
    · exact hspan.unchecked hrest
  · rw [List.countP_append]
    exact Nat.add_le_add (List.countP_le_length.trans h.few) hspan.asks
  · rw [List.countP_append, hnone, Nat.zero_add]
    exact hspan.tells
  · have hnever (earlier : HostCall) (hearlier : earlier ∈ calls) (later : HostCall) :
        earlier.isTell = true → later.isAsk = false := by
      simp [h.isTell_eq_false earlier hearlier]
    exact List.pairwise_append.mpr
      ⟨List.pairwise_of_forall_mem_list fun a ha b _ => hnever a ha b, hspan.order,
        fun a ha b _ => hnever a ha b⟩

end HostCall

/-! ### Statements -/

namespace Expr

/-- The number of questions in an expression. -/
def inputs : Expr → Nat
  | number _ | text _ | truth _ | var _ => 0
  | unary _ e => e.inputs
  | binary _ a b => a.inputs + b.inputs
  | input prompt => prompt.inputs + 1

end Expr

namespace Statement

/-- The expressions of a statement that are not those of statements in it. -/
def ownExpressions : Statement → List Expr
  | output _ arguments => arguments
  | input _ (.var _) => []
  | input _ (.prompt prompt) => [prompt]
  | assign _ _ value => [value]
  | choose _ branches _ => branches.map Prod.fst
  | count _ _ first last _ => [first, last]
  | iterate _ condition _ _ => [condition]

/-- The number of questions in the expressions of a statement. -/
def inputs (statement : Statement) : Nat :=
  (statement.ownExpressions.map Expr.inputs).sum

def isInput : Statement → Bool
  | input .. => true
  | _ => false

/-- How many questions a statement can ask by itself. -/
def requests (statement : Statement) : Nat :=
  statement.inputs + if statement.isInput then 1 else 0

end Statement

namespace HostCall

/-- Whether some calls are the work of some statements, one statement after each check. -/
inductive Paced (statements : List Statement) : List HostCall → Prop
  | nil : Paced statements []
  | next {statement : Statement} {span rest : List HostCall} (hmem : statement ∈ statements)
    (hspan : IsSpan statement.requests span) (hrest : Paced statements rest) :
    Paced statements (.check :: (span ++ rest))

/-- Whether some calls are those after a check, when a statement can still ask `n` questions. -/
def Resumes (statements : List Statement) (n : Nat) (calls : List HostCall) : Prop :=
  ∃ span rest, calls = span ++ rest ∧ IsSpan n span ∧ Paced statements rest

variable {statements : List Statement} {m n : Nat} {calls calls' : List HostCall}

theorem Paced.append (h : Paced statements calls) (h' : Paced statements calls') :
    Paced statements (calls ++ calls') := by
  induction h with
  | nil => exact h'
  | next hmem hspan hrest ih =>
      rw [List.cons_append, List.append_assoc]
      exact .next hmem hspan ih

theorem Paced.resumes (h : Paced statements calls) (n : Nat) : Resumes statements n calls :=
  ⟨[], calls, rfl, isSpan_nil n, h⟩

theorem IsSpan.resumes (h : IsSpan n calls) : Resumes statements n calls :=
  ⟨calls, [], (List.append_nil calls).symm, h, .nil⟩

theorem AreAsks.append_resumes (h : AreAsks m calls) (h' : Resumes statements n calls') :
    Resumes statements (m + n) (calls ++ calls') := by
  obtain ⟨span, rest, rfl, hspan, hrest⟩ := h'
  exact ⟨calls ++ span, rest, (List.append_assoc ..).symm, h.append_isSpan hspan, hrest⟩

theorem Resumes.paced {statement : Statement} (h : Resumes statements n calls)
    (hmem : statement ∈ statements) (hn : n = statement.requests) :
    Paced statements (.check :: calls) := by
  obtain ⟨span, rest, rfl, hspan, hrest⟩ := h
  rw [hn] at hspan
  exact .next hmem hspan hrest

theorem Paced.head_eq_check (h : Paced statements calls) : ∀ call ∈ calls.head?, call = .check := by
  cases h with
  | nil => simp
  | next => simp

/-- Calls without a check end before one begins. -/
theorem prefix_of_append_eq {first rest span after : List HostCall}
    (h : first ++ rest = span ++ after) (hrest : ∀ call ∈ rest.head?, call = .check)
    (hspan : .check ∉ span) : span <+: first := by
  rcases List.append_eq_append_iff.mp h with ⟨more, rfl, rfl⟩ | ⟨more, rfl, -⟩
  · cases more with
    | nil => exact ⟨[], by simp⟩
    | cons call more =>
        obtain rfl : call = .check := hrest call rfl
        exact (hspan (by simp)).elim
  · exact List.prefix_append span more

/-- A check is after all calls that are none. -/
theorem exists_of_append_eq {first rest before after : List HostCall}
    (h : first ++ rest = before ++ .check :: after) (hfirst : .check ∉ first) :
    ∃ more, rest = more ++ .check :: after := by
  rcases List.append_eq_append_iff.mp h with ⟨more, -, hmore⟩ | ⟨more, rfl, hmore⟩
  · exact ⟨more, hmore⟩
  · cases more with
    | nil => exact ⟨[], hmore.symm⟩
    | cons call more =>
        obtain rfl := (List.cons.inj hmore).1
        exact (hfirst (by simp)).elim

/-- What is called between two checks is the work of one statement. -/
theorem Paced.isSpan {before span after : List HostCall} (h : Paced statements calls)
    (hcalls : calls = before ++ .check :: (span ++ after)) (hspan : .check ∉ span) :
    ∃ statement ∈ statements, IsSpan statement.requests span := by
  induction h generalizing before with
  | nil => simp at hcalls
  | @next statement first rest hmem hfirst hrest ih =>
      cases before with
      | nil =>
          have hafter : first ++ rest = span ++ after := (List.cons.inj hcalls).2
          have hprefix := prefix_of_append_eq hafter hrest.head_eq_check hspan
          exact ⟨statement, hmem, hfirst.of_prefix hprefix⟩
      | cons call before =>
          have hafter : first ++ rest = before ++ .check :: (span ++ after) :=
            (List.cons.inj hcalls).2
          obtain ⟨more, hmore⟩ := exists_of_append_eq hafter hfirst.unchecked
          exact ih hmore

theorem Paced.isAsk_eq_false (h : Paced statements calls)
    (hnone : ∀ statement ∈ statements, statement.requests = 0) :
    ∀ call ∈ calls, call.isAsk = false := by
  induction h with
  | nil => simp
  | next hmem hspan hrest ih =>
      have hasks := hspan.asks
      rw [hnone _ hmem, Nat.le_zero, List.countP_eq_zero] at hasks
      simp only [Bool.not_eq_true] at hasks
      exact List.forall_mem_cons.mpr ⟨rfl, List.forall_mem_append.mpr ⟨hasks, ih⟩⟩

end HostCall

/-! ### Running -/

section

variable {σ : Type} (host : Host σ)

open HostCall

namespace Evaluation

variable {α β : Type} {m n : Nat} {evaluation : Evaluation α} {f : α → Evaluation β}

/-- Whether an evaluation asks at most `n` questions and does nothing else. -/
def Asks (n : Nat) (evaluation : Evaluation α) : Prop :=
  ∀ s, AreAsks n (evaluation.run.calls host s)

theorem asks_pure (a : α) : Asks host 0 (pure a : Evaluation α) := fun _ => areAsks_nil 0

theorem asks_throw (cause : Cause) : Asks host 0 (throw cause : Evaluation α) :=
  fun _ => areAsks_nil 0

theorem asks_ofExcept (result : Except Cause α) : Asks host 0 (ofExcept result) :=
  fun _ => areAsks_nil 0

theorem asks_ofExcept_bind (result : Except Cause α) (hf : ∀ a, Asks host n (f a)) :
    Asks host n (ofExcept result >>= f) := by
  cases result with
  | ok a => exact hf a
  | error cause => exact fun _ => areAsks_nil n

theorem asks_ask (prompt : String) : Asks host 1 (ask prompt) :=
  fun _ => ⟨List.forall_mem_singleton.mpr rfl, Nat.le_refl 1⟩

variable {host}

theorem Asks.mono (h : Asks host m evaluation) (hmn : m ≤ n) : Asks host n evaluation :=
  fun s => ⟨(h s).all, (h s).few.trans hmn⟩

theorem Asks.bind (h : Asks host m evaluation) (hf : ∀ a, Asks host n (f a)) :
    Asks host (m + n) (evaluation >>= f) := by
  intro s
  refine (evaluation.run.calls_bind host _ s).symm ▸ (h s).append ?_
  cases (evaluation.run.runOn host s).1 with
  | ok a => exact hf a _
  | error cause => exact areAsks_nil n

end Evaluation

namespace Expr

open Evaluation

variable (scope : Scope)

theorem asks_eval (e : Expr) : Asks host e.inputs (e.eval scope) := by
  induction e with
  | number | text | truth => exact asks_pure host _
  | var name =>
      unfold eval
      cases scope.get? name with
      | some v => exact asks_pure host v
      | none => exact asks_throw host _
  | input prompt ih =>
      exact ih.bind fun _ => (asks_ask host _).bind fun _ => asks_pure host _
  | unary op e ih =>
      cases op <;> exact ih.bind fun _ => asks_ofExcept_bind host _ fun _ => asks_pure host _
  | binary op a b iha ihb =>
      -- What `and` and `or` do once the value of the first operand is known.
      have hright : ∀ v : Bool, Asks host b.inputs (do
          if v then return .truth (← Evaluation.ofExcept (← b.eval scope).asCondition)
          else return .truth false : Evaluation Value) := by
        intro v
        cases v with
        | true => exact ihb.bind fun _ => asks_ofExcept_bind host _ fun _ => asks_pure host _
        | false => exact (asks_pure host _).mono (Nat.zero_le _)
      cases op with
      | and => exact iha.bind fun _ => asks_ofExcept_bind host _ hright
      | or =>
          refine iha.bind fun _ => asks_ofExcept_bind host _ fun v => ?_
          cases v with
          | true => exact (asks_pure host _).mono (Nat.zero_le _)
          | false => exact hright true
      | _ => exact iha.bind fun _ => ihb.bind fun _ => asks_ofExcept host _

theorem asks_condition (e : Expr) : Asks host e.inputs (e.condition scope) :=
  (e.asks_eval host scope).bind fun _ => asks_ofExcept host _

theorem asks_bound (e : Expr) : Asks host e.inputs (e.bound scope) :=
  (e.asks_eval host scope).bind fun _ => asks_ofExcept host _

theorem asks_line (es : List Expr) : Asks host (es.map inputs).sum (line scope es) := by
  induction es with
  | nil => exact asks_pure host _
  | cons e es ih =>
      cases es with
      | nil => exact (e.asks_eval host scope).bind fun _ => asks_pure host _
      | cons e' es =>
          exact (e.asks_eval host scope).bind fun _ => ih.bind fun _ => asks_pure host _

end Expr

namespace Action

variable {m n : Nat} {statements : List Statement} {first second : Action}

/-- Whether an action does the work of some statements, one statement after each check. -/
def Paced (statements : List Statement) (action : Action) : Prop :=
  ∀ scope s, HostCall.Paced statements ((action scope).calls host s)

/-- Whether an action goes on after a check, when a statement can still ask `n` questions. -/
def Resumes (statements : List Statement) (n : Nat) (action : Action) : Prop :=
  ∀ scope s, HostCall.Resumes statements n ((action scope).calls host s)

theorem paced_stop (statements : List Statement) (reason : Stop) :
    Paced host statements (stop reason) :=
  fun _ _ => .nil

theorem paced_skip (statements : List Statement) : Paced host statements skip :=
  fun _ _ => .nil

theorem paced_assign (statements : List Statement) (name : String) (value : Value) :
    Paced host statements (assign name value) :=
  fun _ _ => .nil

theorem resumes_tell (statements : List Statement) (text : String) :
    Resumes host statements 0 (tell text) :=
  fun _ _ => (isSpan_tell text).resumes

variable {host}

theorem Paced.resumes {action : Action} (h : Paced host statements action) (n : Nat) :
    Resumes host statements n action :=
  fun scope s => (h scope s).resumes n

theorem Paced.andThen (hfirst : Paced host statements first)
    (hsecond : Paced host statements second) : Paced host statements (first.andThen second) := by
  intro scope s
  refine (Dialogue.calls_bind host (first scope) _ s).symm ▸ (hfirst scope s).append ?_
  rcases ((first scope).runOn host s).1 with ⟨_ | reason, scope⟩
  · exact hsecond scope _
  · exact .nil

/-- After its check a statement does its own work. -/
theorem Resumes.paced {action : Action} {statement : Statement}
    (h : Resumes host statements n action) (hmem : statement ∈ statements)
    (hn : n = statement.requests) : Paced host statements (unlessCanceled action) := by
  intro scope s
  refine HostCall.Resumes.paced ?_ hmem hn
  cases (host.check s).1 with
  | true => exact HostCall.Paced.nil.resumes _
  | false => exact h scope _

theorem resumes_evaluate {α : Type} (line : Nat) {evaluation : Scope → Evaluation α}
    {next : α → Action} (hevaluation : ∀ scope, (evaluation scope).Asks host m)
    (hnext : ∀ a, Resumes host statements n (next a)) :
    Resumes host statements (m + n) (evaluate line evaluation next) := by
  intro scope s
  refine (Dialogue.calls_bind host (evaluation scope).run _ s).symm ▸
    (hevaluation scope s).append_resumes ?_
  cases ((evaluation scope).run.runOn host s).1 with
  | ok a => exact hnext a scope _
  | error cause => exact HostCall.Paced.nil.resumes n

theorem resumes_ask (prompt : String) {next : String → Action}
    (hnext : ∀ answer, Resumes host statements n (next answer)) :
    Resumes host statements (n + 1) (ask prompt next) := by
  intro scope s
  have hask : AreAsks 1 [.ask prompt] := ⟨List.forall_mem_singleton.mpr rfl, Nat.le_refl 1⟩
  rw [Nat.add_comm]
  exact hask.append_resumes (hnext _ scope _)

/-- A counting loop makes a check before each pass. -/
theorem Paced.count {statement : Statement} (h : Paced host statements first)
    (hmem : statement ∈ statements) (name : String) (passes : Nat) (i : Int) :
    Paced host statements (count name first passes i) := by
  induction passes generalizing i with
  | zero => exact paced_skip host statements
  | succ passes ih =>
      have hpass := (paced_assign host statements name (.number (.ofInt i))).andThen
        (h.andThen (ih (i + 1)))
      exact (hpass.resumes _).paced hmem rfl

/-- So does a loop that no count bounds, before it evaluates its condition. -/
theorem Paced.iterate {statement : Statement} (h : Paced host statements first)
    (hmem : statement ∈ statements) (line : Nat) {condition : Scope → Evaluation Bool}
    (hcondition : ∀ scope, (condition scope).Asks host n) (hn : n = statement.requests)
    (stopAt : Bool) (patience : Nat) :
    Paced host statements (iterate line condition stopAt first patience) := by
  induction patience with
  | zero => exact paced_stop host statements .exhausted
  | succ patience ih =>
      have hpass (value : Bool) : Resumes host statements 0 fun scope =>
          if value == stopAt then skip scope
          else first.andThen (Action.iterate line condition stopAt first patience) scope := by
        intro scope s
        dsimp only
        split
        · exact HostCall.Paced.nil.resumes 0
        · exact (h.andThen ih scope s).resumes 0
      exact (resumes_evaluate line hcondition hpass).paced hmem hn

end Action

namespace Statement

variable {host} {statements : List Statement}

mutual

/-- A statement does the work of itself and of the statements in it. -/
theorem paced_run (patience : Nat) : ∀ {statement : Statement},
    statement.withInner ⊆ statements → (run patience statement).Paced host statements
  | .output line arguments, h =>
      (Action.resumes_evaluate line (Expr.asks_line host · arguments)
        (Action.resumes_tell host statements)).paced (h List.mem_cons_self) rfl
  | .input _ (.var name), h =>
      (Action.resumes_ask name fun _ =>
        (Action.paced_assign host statements name _).resumes 0).paced (h List.mem_cons_self) rfl
  | .input line (.prompt prompt), h =>
      (Action.resumes_evaluate line (Expr.asks_eval host · prompt) fun _ =>
        Action.resumes_ask _ fun _ => (Action.paced_skip host statements).resumes 0).paced
          (h List.mem_cons_self) rfl
  | .assign line name value, h =>
      (Action.resumes_evaluate line (Expr.asks_eval host · value) fun _ =>
        (Action.paced_assign host statements name _).resumes 0).paced (h List.mem_cons_self) rfl
  | .choose line branches otherwise, h => by
      obtain ⟨hmem, hinner⟩ := List.cons_subset.mp h
      obtain ⟨hbranches, hotherwise⟩ := List.append_subset.mp hinner
      exact (resumes_runBranches patience line (paced_runAll patience hotherwise) hbranches).paced
        hmem rfl
  | .count line name first last body, h => by
      obtain ⟨hmem, hbody⟩ := List.cons_subset.mp h
      exact (Action.resumes_evaluate line (Expr.asks_bound host · first) fun _ =>
        Action.resumes_evaluate line (Expr.asks_bound host · last) fun _ =>
          ((paced_runAll patience hbody).count hmem name _ _).resumes 0).paced hmem rfl
  | .iterate line condition stopAt body, h => by
      obtain ⟨hmem, hbody⟩ := List.cons_subset.mp h
      exact (((paced_runAll patience hbody).iterate hmem line (Expr.asks_condition host · condition)
        rfl stopAt patience).resumes _).paced hmem rfl

theorem paced_runAll (patience : Nat) : ∀ {block : List Statement},
    withInnerAll block ⊆ statements → (runAll patience block).Paced host statements
  | [], _ => Action.paced_skip host statements
  | statement :: block, h => by
      obtain ⟨hfirst, hothers⟩ := List.append_subset.mp h
      exact (paced_run patience hfirst).andThen (paced_runAll patience hothers)

theorem resumes_runBranches (patience line : Nat) {otherwise : Action}
    (hotherwise : otherwise.Paced host statements) : ∀ {branches : List (Expr × List Statement)},
      innerOfBranches branches ⊆ statements →
        (runBranches patience line otherwise branches).Resumes host statements
          ((branches.map Prod.fst).map Expr.inputs).sum
  | [], _ => hotherwise.resumes 0
  | (condition, body) :: branches, h => by
      obtain ⟨hbody, hothers⟩ := List.append_subset.mp h
      refine Action.resumes_evaluate line (Expr.asks_condition host · condition) fun value => ?_
      cases value with
      | true => exact (paced_runAll patience hbody).resumes _
      | false => exact resumes_runBranches patience line hotherwise hothers

end

end Statement

/-! ### Passes -/

namespace Action

/-- A counting loop that comes to its end makes a check for each of its passes. -/
theorem endures_count (name : String) (body : Action) (passes : Nat) (i : Int) (scope : Scope) :
    (count name body passes i scope).Endures (fun result => result.1 = none) passes := by
  induction passes generalizing i scope with
  | zero => exact fun _ => rfl
  | succ passes ih =>
      intro canceled
      cases canceled with
      | true => exact fun hnone => nomatch hnone
      | false =>
          have hbody := (body (scope.set name (.number (.ofInt i)))).endures_of_never passes
          refine hbody.bind (by simp) ?_
          rintro ⟨_ | reason, scope⟩ -
          · exact ih (i + 1) scope
          · exact fun hnone => nomatch hnone

theorem calls_evaluate {α : Type} (line : Nat) (evaluation : Scope → Evaluation α)
    (next : α → Action) (scope : Scope) (s : σ) :
    (evaluate line evaluation next scope).calls host s =
      (evaluation scope).run.calls host s ++
        match (evaluation scope).run.runOn host s with
        | (.error _, _) => []
        | (.ok a, s) => (next a scope).calls host s := by
  refine (Dialogue.calls_bind host (evaluation scope).run _ s).trans (congrArg _ ?_)
  rcases (evaluation scope).run.runOn host s with ⟨_ | a, s⟩ <;> rfl

end Action

namespace Statement

theorem lt_count_check_count {patience line : Nat} {name : String} {first last : Expr}
    {body : List Statement} {scope : Scope} {s : σ}
    (h : ((run patience (.count line name first last body) scope).runOn host s).1.1 = none) :
    ∃ a b s', boundsOn host scope first last (host.check s).2 = (.ok (a, b), s') ∧
      (b + 1 - a).toNat <
        ((run patience (.count line name first last body) scope).calls host s).count .check := by
  simp only [run, Action.unlessCanceled, Dialogue.runOn, Dialogue.calls] at h ⊢
  cases hcheck : (host.check s).1 with
  | true =>
      rw [hcheck] at h
      cases h
  | false =>
      rw [hcheck, if_neg Bool.false_ne_true, runOn_evaluate, runOn_bound] at h
      rw [if_neg Bool.false_ne_true, Action.calls_evaluate, runOn_bound, boundsOn]
      rcases hfirst : boundOn host scope first (host.check s).2 with ⟨cause | a, s₁⟩ <;>
        rw [hfirst] at h
      · cases h
      · dsimp only at h ⊢
        rw [runOn_evaluate, runOn_bound] at h
        rw [Action.calls_evaluate, runOn_bound]
        rcases hlast : boundOn host scope last s₁ with ⟨cause | b, s₂⟩ <;> rw [hlast] at h
        · cases h
        · dsimp only at h ⊢
          refine ⟨a, b, s₂, rfl, ?_⟩
          have hpasses := (Action.endures_count name (runAll patience body) (b + 1 - a).toNat a
            scope).le_count_check host h
          rw [List.count_cons_self, List.count_append, List.count_append]
          omega

end Statement

namespace Interpreter

variable {source : String} {program : List Statement}

/-- A program that was read makes the calls of its statements. -/
theorem calls_script (hprogram : Program.ofSource source = .ok program) (patience : Nat) (s : σ) :
    (script patience source).calls host s =
      (Statement.runAll patience program []).calls host s := by
  rw [script, hprogram]
  refine (Dialogue.calls_bind host (Statement.runAll patience program []) _ s).trans ?_
  rcases ((Statement.runAll patience program []).runOn host s).1 with ⟨_ | reason, scope⟩ <;>
    exact List.append_nil _

/-- A program checks often enough whether it was canceled. It begins with a check; what it does from
one check to the next, or to its end, is the work of one statement, which is at most as many
questions as there are in its expressions, one more if it is an input statement, and then at most one
line. A run that is cut off has made as many checks as it had patience, a counting loop that comes to
its end makes more checks than it has passes, and a program without questions asks none. -/
theorem checks_often (hprogram : Program.ofSource source = .ok program) (patience : Nat) (s : σ) :
    (∀ call ∈ ((script patience source).calls host s).head?, call = .check) ∧
    (∀ before span after, (script patience source).calls host s =
        before ++ .check :: (span ++ after) → .check ∉ span →
      ∃ statement ∈ Statement.withInnerAll program, IsSpan statement.requests span) ∧
    (((script patience source).runOn host s).1 = .exhausted →
      patience ≤ ((script patience source).calls host s).count .check) ∧
    (∀ line name first last body scope s,
      ((Statement.run patience (.count line name first last body) scope).runOn host s).1.1 = none →
        ∃ a b s', Statement.boundsOn host scope first last (host.check s).2 = (.ok (a, b), s') ∧
          (b + 1 - a).toNat < ((Statement.run patience (.count line name first last body)
            scope).calls host s).count .check) ∧
    ((∀ statement ∈ Statement.withInnerAll program, statement.requests = 0) →
      ∀ call ∈ (script patience source).calls host s, call.isAsk = false) := by
  have hpaced : HostCall.Paced (Statement.withInnerAll program)
      ((script patience source).calls host s) := by
    rw [calls_script host hprogram]
    exact Statement.paced_runAll patience (List.Subset.refl _) [] s
  exact ⟨hpaced.head_eq_check, fun _ _ _ => hpaced.isSpan,
    (script_endures patience source).le_count_check host,
    fun _ _ _ _ _ _ _ => Statement.lt_count_check_count host, hpaced.isAsk_eq_false⟩

/-- A loop with nothing in it that goes on until it is told to stop. -/
def idle : String :=
  "loop until input(\"stop?\") = 1\nend loop"

theorem checks_often_idle :
    (script 2 idle).calls (.recording (fun _ => "0") fun _ => false) [] =
      [.check, .check, .ask "stop?", .check, .ask "stop?"] ∧
    2 ≤ ((script 2 idle).calls (.recording (fun _ => "0") fun _ => false) []).count .check ∧
    ∃ program, Program.ofSource idle = .ok program ∧
      ∃ statement ∈ Statement.withInnerAll program, IsSpan statement.requests [.ask "stop?"] := by
  have hlines : Line.ofSource idle = .ok [
      ⟨1, [.word "loop", .word "until", .word "input", .symbol .leftParen, .text "stop?",
        .symbol .rightParen, .symbol .eq, .number (.ofInt 1)]⟩,
      ⟨2, [.word "end", .word "loop"]⟩] := by
    decide +kernel
  have hprogram : Program.ofSource idle =
      .ok [.iterate 1 (.binary .eq (.input (.text "stop?")) (.number (.ofInt 1))) true []] := by
    rw [Program.ofSource, hlines]
    rfl
  have hcalls : (script 2 idle).calls (.recording (fun _ => "0") fun _ => false) [] =
      [.check, .check, .ask "stop?", .check, .ask "stop?"] := by
    decide +kernel
  have hexhausted :
      ((script 2 idle).runOn (.recording (fun _ => "0") fun _ => false) []).1 = .exhausted := by
    decide +kernel
  obtain ⟨-, hspan, hchecks, -, -⟩ :=
    checks_often (.recording (fun _ => "0") fun _ => false) hprogram 2 []
  exact ⟨hcalls, hchecks hexhausted, _, hprogram,
    hspan [.check, .check, .ask "stop?"] [.ask "stop?"] [] hcalls (by simp)⟩

/-- An input statement with a prompt asks a question though there is none in its prompt. -/
theorem prompt_is_asked :
    Program.ofSource "input \"x\"" = .ok [.input 1 (.prompt (.text "x"))] ∧
    (script 0 "input \"x\"").calls (.recording (fun _ => "") fun _ => false) [] =
      [] ++ .check :: ([.ask "x"] ++ []) ∧
    ¬∃ statement ∈ Statement.withInnerAll [.input 1 (.prompt (.text "x"))],
      IsSpan (statement.inputs + if statement matches .input _ (.var _) then 1 else 0)
        [.ask "x"] := by
  have hlines : Line.ofSource "input \"x\"" = .ok [⟨1, [.word "input", .text "x"]⟩] := by
    decide +kernel
  have hprogram : Program.ofSource "input \"x\"" = .ok [.input 1 (.prompt (.text "x"))] := by
    rw [Program.ofSource, hlines]
    rfl
  refine ⟨hprogram, by decide +kernel, ?_⟩
  rintro ⟨statement, hmem, hspan⟩
  obtain rfl := List.mem_singleton.mp hmem
  exact Nat.not_succ_le_zero 0 hspan.asks

end Interpreter

end

end Pseudocode
