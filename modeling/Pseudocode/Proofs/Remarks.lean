import Pseudocode.Message
import Pseudocode.Proofs.Channel
import Pseudocode.Proofs.Heeding

/-!
What a program says when nobody cancels it: its prompts and outputs in order, and how it ends. The
remarks of a dialogue are those that it makes on a host that always goes on and gives the answers of
a list, one for each request, as a channel lets them be read.

The interpreter never breaks down, and it is canceled only if the host says so.
-/

namespace Pseudocode

/-- What the foreground is told of a run. -/
inductive Remark where
  | prompt (text : String)
  | output (text : String)
  | finished (summary : String)
  | failed (message : String)
  deriving DecidableEq, Repr

/-- Whether the remark ends its run. -/
def Remark.isTerminal : Remark → Bool
  | .finished _ | .failed _ => true
  | .prompt _ | .output _ => false

def Event.remark? : Event → Option Remark
  | .ready => none
  | .requested request => some (.prompt request.prompt)
  | .produced _ text => some (.output text)
  | .finished _ summary => some (.finished summary)
  | .failed _ message => some (.failed message)

/-- What is told of the end of a run. A run that was canceled, broke down or was cut off ends
without a word. -/
def Ending.remark? : Ending → Option Remark
  | .finished summary => some (.finished summary)
  | .failed fault => some (.failed fault.message)
  | .canceled | .crashed | .exhausted => none

/-- A host that never cancels. It gives the answers one after the other, empty ones when they are
used up, as they are read back from a channel; and it keeps what is said. -/
def Host.steady (capacity : Nat) : Host (List String × List Remark) where
  check state := (false, state)
  ask prompt state :=
    (Channel.readBack capacity (state.1.headD ""), (state.1.tail, state.2 ++ [.prompt prompt]))
  tell text state := (state.1, state.2 ++ [.output text])

namespace Dialogue

/-- What a dialogue says from here on, its end included, when nobody cancels it. -/
def remarks (capacity : Nat) : Dialogue Ending → List String → List Remark
  | done ending, _ => ending.remark?.toList
  | check next, answers => (next false).remarks capacity answers
  | ask prompt next, answers =>
    .prompt prompt ::
      (next (Channel.readBack capacity (answers.headD ""))).remarks capacity answers.tail
  | tell text next, answers => .output text :: (next ()).remarks capacity answers

theorem runOn_steady (capacity : Nat) (d : Dialogue Ending) (answers : List String)
    (said : List Remark) :
    (d.runOn (.steady capacity) (answers, said)).2.2 ++
        (d.runOn (.steady capacity) (answers, said)).1.remark?.toList =
      said ++ d.remarks capacity answers := by
  induction d generalizing answers said with
  | done ending => rfl
  | check next ih => exact ih false answers said
  | ask prompt next ih =>
      have hnext := ih (Channel.readBack capacity (answers.headD "")) answers.tail
        (said ++ [.prompt prompt])
      simp only [List.append_assoc, List.singleton_append] at hnext
      exact hnext
  | tell text next ih =>
      have hnext := ih () answers (said ++ [.output text])
      simp only [List.append_assoc, List.singleton_append] at hnext
      exact hnext

/-- What is said before the end is not that the end has come. -/
theorem not_isTerminal_of_runOn_steady (capacity : Nat) (d : Dialogue Ending)
    (answers : List String) {said : List Remark}
    (hsaid : ∀ remark ∈ said, remark.isTerminal = false) :
    ∀ remark ∈ (d.runOn (.steady capacity) (answers, said)).2.2, remark.isTerminal = false := by
  induction d generalizing answers said with
  | done ending => exact hsaid
  | check next ih => exact ih false answers hsaid
  | ask prompt next ih =>
      refine ih _ answers.tail fun remark hremark => ?_
      rcases List.mem_append.mp hremark with hremark | hremark
      · exact hsaid remark hremark
      · rw [List.mem_singleton.mp hremark, Remark.isTerminal]
  | tell text next ih =>
      refine ih () answers fun remark hremark => ?_
      rcases List.mem_append.mp hremark with hremark | hremark
      · exact hsaid remark hremark
      · rw [List.mem_singleton.mp hremark, Remark.isTerminal]

/-- Nothing is said after the end. -/
theorem pairwise_remarks (capacity : Nat) (d : Dialogue Ending) (answers : List String) :
    (d.remarks capacity answers).Pairwise fun a _ => a.isTerminal = false := by
  induction d generalizing answers with
  | done ending => cases ending <;> simp [remarks, Ending.remark?]
  | check next ih => exact ih false answers
  | ask prompt next ih => exact List.Pairwise.cons (fun _ _ => rfl) (ih _ answers.tail)
  | tell text next ih => exact List.Pairwise.cons (fun _ _ => rfl) (ih () answers)

/-- Whether each end of a dialogue has a property, if it gets only the given answers when it asks
whether it was canceled. -/
def Ends {α : Type} (may : Bool → Prop) (P : α → Prop) : Dialogue α → Prop
  | done a => P a
  | check next => ∀ canceled, may canceled → (next canceled).Ends may P
  | ask _ next => ∀ answer, (next answer).Ends may P
  | tell _ next => (next ()).Ends may P

section

variable {α β : Type} {may : Bool → Prop} {P : α → Prop} {Q : β → Prop} {d : Dialogue α}
  {f : α → Dialogue β}

theorem Ends.bind (h : d.Ends may P) (hf : ∀ a, P a → (f a).Ends may Q) : (d >>= f).Ends may Q := by
  induction d with
  | done a => exact hf a h
  | check next ih => exact fun canceled hmay => ih canceled (h canceled hmay)
  | ask prompt next ih => exact fun answer => ih answer (h answer)
  | tell text next ih => exact ih () h

theorem ends_true (d : Dialogue α) : d.Ends may fun _ => True := by
  induction d with
  | done a => trivial
  | check next ih => exact fun canceled _ => ih canceled
  | ask prompt next ih => exact fun answer => ih answer
  | tell text next ih => exact ih ()

theorem ends_bind_of_forall (d : Dialogue α) (hf : ∀ a, (f a).Ends may Q) :
    (d >>= f).Ends may Q :=
  d.ends_true.bind fun a _ => hf a

theorem Heeds.ends {canceled : α → Prop} (h : d.Heeds canceled) :
    d.Ends (· = false) fun a => ¬canceled a := by
  induction d with
  | done a => exact h
  | check next ih =>
      rintro canceled rfl
      exact ih false h.2
  | ask prompt next ih => exact fun answer => ih answer (h answer)
  | tell text next ih => exact ih () h

/-- What holds of all ends of a dialogue holds of the one that it has on a host. -/
theorem Ends.runOn {σ : Type} (h : d.Ends may P) (host : Host σ)
    (hmay : ∀ s, may (host.check s).1) (s : σ) : P (d.runOn host s).1 := by
  induction d generalizing s with
  | done a => exact h
  | check next ih => exact ih _ (h _ (hmay s)) _
  | ask prompt next ih => exact ih _ (h _) _
  | tell text next ih => exact ih () h _

theorem Ends.runOn_steady {d : Dialogue Ending} {P : Ending → Prop} (h : d.Ends (· = false) P)
    (capacity : Nat) (state : List String × List Remark) :
    P (d.runOn (.steady capacity) state).1 :=
  h.runOn (.steady capacity) (fun _ => rfl) state

end

end Dialogue

namespace Interpreter

/-- The interpreter never breaks down. -/
theorem script_ne_crashed (patience : Nat) (source : String) (may : Bool → Prop) :
    (script patience source).Ends may (· ≠ .crashed) := by
  unfold script
  split
  · exact Ending.noConfusion
  · refine Dialogue.ends_bind_of_forall _ fun result => ?_
    obtain ⟨reason?, scope⟩ := result
    cases reason? with
    | none => exact Ending.noConfusion
    | some reason => cases reason <;> exact Ending.noConfusion

/-- The interpreter is canceled only if the host says so. -/
theorem script_ne_canceled (patience : Nat) (source : String) :
    (script patience source).Ends (· = false) (· ≠ .canceled) :=
  (script_heeds patience source).ends

/-- A program that nobody cancels ends by itself, unless it is cut off in a loop. -/
theorem script_ending (patience : Nat) (source : String) (capacity : Nat) (answers : List String) :
    (∃ last, ((script patience source).runOn (.steady capacity) (answers, [])).1.remark? =
      some last ∧ last.isTerminal = true) ∨
    ((script patience source).runOn (.steady capacity) (answers, [])).1 = .exhausted := by
  have hcrashed :=
    (script_ne_crashed patience source (· = false)).runOn_steady capacity (answers, [])
  have hcanceled := (script_ne_canceled patience source).runOn_steady capacity (answers, [])
  cases hending : ((script patience source).runOn (.steady capacity) (answers, [])).1 with
  | finished | failed => exact .inl ⟨_, rfl, rfl⟩
  | exhausted => exact .inr rfl
  | crashed => exact (hcrashed hending).elim
  | canceled => exact (hcanceled hending).elim

end Interpreter

end Pseudocode
