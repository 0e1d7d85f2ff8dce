import Pseudocode.Shared

/-!
The foreground's side of an exchange: an answer to the pending request, step by step. The text is
written only while the word says that the worker waits, and counts only if it still says so when
the answer is announced.
-/

namespace Pseudocode

/-- Where an answer stands, named for what comes next. -/
inductive Answering where
  /-- See whether the worker waits. -/
  | looking
  | writing
  /-- Move the word from waiting to ready. -/
  | announcing
  /-- Wake the worker. -/
  | waking
  | returned (accepted : Bool)
  deriving DecidableEq, Repr

namespace Answering

/-- One step of an answer; whom `waking` wakes is for the runner to say. -/
def step (text : String) (s : Shared) : Answering → Shared × Answering
  | looking => (s, if s.channel.state = .waiting then writing else returned false)
  | writing => ({ s with channel := s.channel.writeText text }, announcing)
  | announcing =>
    match s.channel.transition .waiting .ready with
    | .ok channel => ({ s with channel }, waking)
    | .error _ => (s, returned false)
  | waking => (s, returned true)
  | returned accepted => (s, returned accepted)

/-- An answer with nobody else moving. -/
def deliver (text : String) (s : Shared) : Shared × Bool :=
  let (s, a) := looking.step text s
  let (s, a) := a.step text s
  let (s, a) := a.step text s
  match a.step text s with
  | (s, returned accepted) => (s, accepted)
  | (s, _) => (s, false)

end Answering

end Pseudocode
