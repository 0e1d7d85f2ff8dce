import Pseudocode.Answering
import Pseudocode.Asking

/-!
One channel with both its ends and no program: requests are made and answered by hand. A request
that sleeps goes on as soon as the word no longer says to wait.
-/

namespace Pseudocode

structure Exchange where
  shared : Shared
  /-- The number of the last request. -/
  lastRequest : Nat
  /-- The request that sleeps. -/
  parked : Option Request
  /-- The request that the next answer is for. -/
  pending : Option Request

namespace Exchange

def ofChannel (channel : Channel) (generation : Nat) : Exchange :=
  ⟨.ofChannel channel generation, 0, none, none⟩

def channel (x : Exchange) : Channel := x.shared.channel

def setChannel (x : Exchange) (channel : Channel) : Exchange :=
  { x with shared := { x.shared with channel } }

/-- What became of a request for input. -/
inductive Asked where
  /-- Another request sleeps. -/
  | busy
  | returned (text : String)
  | parked (request : Request)

/-- Makes a request. If it goes to sleep, the foreground is told and takes it as pending. -/
def ask (x : Exchange) (run : Nat) (prompt : String) : Asked × Exchange :=
  if x.parked.isSome then (.busy, x)
  else
    let id := x.lastRequest + 1
    let request : Request := ⟨run, id, prompt⟩
    match Asking.settle request x.shared .claiming with
    | (shared, .returned text) => (.returned text, { x with shared, lastRequest := id })
    | (shared, _) =>
      (.parked request,
        { shared := { shared with inbox := [] }
          lastRequest := id
          parked := some request
          pending := some request })

/-- Answers the pending request; whether the answer was accepted. -/
def submit (x : Exchange) (text : String) : Bool × Exchange :=
  match x.pending with
  | none => (false, x)
  | some _ =>
    let (shared, accepted) := Answering.deliver text x.shared
    (accepted, { x with shared, pending := none })

/-- Wakes the sleeping request if the word no longer says to wait; what it then returned. -/
def resume (x : Exchange) : Option String × Exchange :=
  match x.parked with
  | none => (none, x)
  | some request =>
    if x.channel.state = .waiting then (none, x)
    else
      match Asking.settle request x.shared .watching with
      | (shared, .returned text) => (some text, { x with shared, parked := none })
      | (shared, _) => (none, { x with shared })

/-- Resets the channel of a sleeping request; what it then returned. -/
def release (x : Exchange) : Option String × Exchange :=
  if x.parked.isSome then (x.setChannel x.channel.reset).resume else (none, x)

end Exchange

end Pseudocode
