/-!
The state of a channel, as its control word holds it. One exchange takes it around the cycle
`idle`, `waiting`, `ready`, and a reset brings it back to `idle` from anywhere.
-/

namespace Pseudocode

inductive ChannelState where
  /-- No request is open; the text is stale. -/
  | idle
  /-- The worker waits for an answer. -/
  | waiting
  /-- An answer is there and was not taken yet. -/
  | ready
  deriving DecidableEq, Repr, Inhabited

namespace ChannelState

def toWord : ChannelState → Nat
  | idle => 0
  | waiting => 1
  | ready => 2

/-- A word that stands for no state is read as `idle`. -/
def ofWord : Nat → ChannelState
  | 1 => waiting
  | 2 => ready
  | _ => idle

def next : ChannelState → ChannelState
  | idle => waiting
  | waiting => ready
  | ready => idle

def canMove (a b : ChannelState) : Bool := a.next == b

def name : ChannelState → String
  | idle => "idle"
  | waiting => "waiting"
  | ready => "ready"

@[simp] theorem ofWord_toWord (a : ChannelState) : ofWord a.toWord = a := by
  cases a <;> rfl

theorem toWord_lt (a : ChannelState) : a.toWord < 256 := by
  cases a <;> decide

theorem toWord_injective {a b : ChannelState} (h : a.toWord = b.toWord) : a = b := by
  simpa using congrArg ofWord h

end ChannelState

end Pseudocode
