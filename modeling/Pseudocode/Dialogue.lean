/-!
Dialogues: computations that talk to a host. A dialogue can ask whether it was canceled, ask for an
answer and tell a line of output; everything else it does is pure. What a dialogue does on a host
is a function of the host alone, so two hosts can be compared on one dialogue.
-/

namespace Pseudocode

inductive Dialogue (α : Type) where
  | done (a : α)
  /-- Asks whether the computation was canceled. -/
  | check (next : Bool → Dialogue α)
  | ask (prompt : String) (next : String → Dialogue α)
  | tell (text : String) (next : Unit → Dialogue α)

namespace Dialogue

protected def bind {α β : Type} : Dialogue α → (α → Dialogue β) → Dialogue β
  | done a, f => f a
  | check next, f => check fun canceled => (next canceled).bind f
  | ask prompt next, f => ask prompt fun answer => (next answer).bind f
  | tell text next, f => tell text fun u => (next u).bind f

instance : Monad Dialogue where
  pure := done
  bind := Dialogue.bind

@[simp] theorem pure_eq {α : Type} (a : α) : (pure a : Dialogue α) = done a := rfl

@[simp] theorem done_bind {α β : Type} (a : α) (f : α → Dialogue β) : done a >>= f = f a := rfl

@[simp] theorem check_bind {α β : Type} (next : Bool → Dialogue α) (f : α → Dialogue β) :
    check next >>= f = check fun canceled => next canceled >>= f := rfl

@[simp] theorem ask_bind {α β : Type} (prompt : String) (next : String → Dialogue α)
    (f : α → Dialogue β) : ask prompt next >>= f = ask prompt fun answer => next answer >>= f := rfl

@[simp] theorem tell_bind {α β : Type} (text : String) (next : Unit → Dialogue α)
    (f : α → Dialogue β) : tell text next >>= f = tell text fun u => next u >>= f := rfl

@[simp] theorem bind_done {α : Type} (d : Dialogue α) : d >>= done = d := by
  induction d with
  | done a => rfl
  | check next ih | ask prompt next ih | tell text next ih => simp [ih]

theorem bind_assoc {α β γ : Type} (d : Dialogue α) (f : α → Dialogue β) (g : β → Dialogue γ) :
    d >>= f >>= g = d >>= fun a => f a >>= g := by
  induction d with
  | done a => rfl
  | check next ih | ask prompt next ih | tell text next ih => simp [ih]

/-- A question as a dialogue of its own. -/
def question (prompt : String) : Dialogue String := ask prompt done

end Dialogue

/-- What a dialogue talks to: a state that every call may use and change. -/
structure Host (σ : Type) where
  check : σ → Bool × σ
  ask : String → σ → String × σ
  tell : String → σ → σ

/-- Runs a dialogue on a host. -/
def Dialogue.runOn {σ α : Type} (host : Host σ) : Dialogue α → σ → α × σ
  | done a, s => (a, s)
  | check next, s => (next (host.check s).1).runOn host (host.check s).2
  | ask prompt next, s => (next (host.ask prompt s).1).runOn host (host.ask prompt s).2
  | tell text next, s => (next ()).runOn host (host.tell text s)

end Pseudocode
