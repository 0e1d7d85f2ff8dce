/-!
What the worker and the foreground send to each other. Runs and requests are numbered from 1, and
every event of a run names it.
-/

namespace Pseudocode

/-- A request for input, as the foreground is told of it. -/
structure Request where
  run : Nat
  id : Nat
  prompt : String
  deriving DecidableEq, Repr

/-- What the worker tells the foreground. -/
inductive Event where
  | ready
  | requested (request : Request)
  | produced (run : Nat) (text : String)
  | finished (run : Nat) (text : String)
  | failed (run : Nat) (message : String)
  deriving DecidableEq, Repr

namespace Event

def run? : Event → Option Nat
  | ready => none
  | requested request => some request.run
  | produced run _ | finished run _ | failed run _ => some run

/-- Whether the event ends its run. -/
def isTerminal : Event → Bool
  | finished .. | failed .. => true
  | _ => false

end Event

/-- What the foreground receives: events, and the lines that a user types. -/
inductive Message where
  | event (event : Event)
  | line (text : String)
  /-- The user will type no more. -/
  | closed
  deriving DecidableEq, Repr

/-- What the foreground tells the worker to do. -/
inductive Command where
  /-- The channel is there to be used. -/
  | init
  | run (run : Nat) (source : String)
  | shutdown
  deriving DecidableEq, Repr

def runName (run : Nat) : String := "run#" ++ toString run

def requestName (id : Nat) : String := "req#" ++ toString id

end Pseudocode
