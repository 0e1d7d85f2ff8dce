import Pseudocode.Shared

/-!
The worker's side of an exchange: a request for input, step by step. Each step uses the shared
state once, so that the steps of the foreground may fall between any two of them.

The worker claims the channel before it looks whether its run is still current: whoever starts
another run first makes the run stale and then resets the channel, so one of the two sees the
other. Asleep, the worker makes no step of its own; a wake makes it look at the word again.
-/

namespace Pseudocode

/-- Where a request stands, named for what comes next. -/
inductive Asking where
  /-- Move the word from idle to waiting. -/
  | claiming
  /-- Force the word, which was not idle, to idle. -/
  | recovering
  | wakingAfterRecovery
  /-- Move the word from idle to waiting, once more. -/
  | reclaiming
  /-- See whether the run is still the current one. -/
  | guarding
  /-- Tell the foreground. -/
  | sending
  /-- Force the word to idle, to give up. -/
  | withdrawing
  | wakingAfterWithdrawal
  /-- See whether the word still says to wait. -/
  | watching
  /-- Fall asleep, if the word still says to wait. -/
  | dozing
  | asleep
  /-- See whether there is an answer. -/
  | inspecting
  | reading
  /-- Erase the answer that was read. -/
  | erasing (text : String)
  /-- Move the word from ready to idle. -/
  | consuming (text : String)
  | returned (text : String)
  deriving DecidableEq, Repr

namespace Asking

/-- One step of a request. Asleep and at the end there is none, and nothing changes. -/
def step (request : Request) (s : Shared) : Asking → Shared × Asking
  | claiming =>
    match s.channel.transition .idle .waiting with
    | .ok channel => ({ s with channel }, guarding)
    | .error _ => (s, recovering)
  | recovering => (s.resetChannel, wakingAfterRecovery)
  | wakingAfterRecovery => (s, reclaiming)
  | reclaiming =>
    match s.channel.transition .idle .waiting with
    | .ok channel => ({ s with channel }, guarding)
    | .error _ => (s, returned "")
  | guarding => (s, if s.generation = request.run then sending else withdrawing)
  | sending =>
    match s.sendEvent? (.requested request) with
    | some s => (s, watching)
    | none => (s, withdrawing)
  | withdrawing => (s.resetChannel, wakingAfterWithdrawal)
  | wakingAfterWithdrawal => (s, returned "")
  | watching =>
    (s, if s.channel.word = ChannelState.waiting.toWord then dozing else inspecting)
  | dozing => (s, if s.channel.word = ChannelState.waiting.toWord then asleep else watching)
  | asleep => (s, asleep)
  | inspecting => (s, if s.channel.state = .ready then reading else returned "")
  | reading => (s, erasing s.channel.readText)
  | erasing text => ({ s with channel := s.channel.clear }, consuming text)
  | consuming text =>
    match s.channel.transition .ready .idle with
    | .ok channel => ({ s with channel }, returned text)
    | .error _ => (s, returned text)
  | returned text => (s, returned text)

/-- What a wake does: it rouses who is asleep, and nobody else. -/
def woken : Asking → Asking
  | asleep => watching
  | a => a

/-- Whether the request makes no step of its own. -/
def isResting : Asking → Bool
  | asleep | returned _ => true
  | _ => false

/-- A number of steps with nobody else moving. -/
def steps (request : Request) : Nat → Shared × Asking → Shared × Asking
  | 0, state => state
  | n + 1, (s, a) => steps request n (a.step request s)

/-- More steps than a request makes before it rests, with nobody else moving. -/
def restWithin : Nat := 16

/-- Goes on with nobody else moving, until the request is asleep or has returned. -/
def settle (request : Request) (s : Shared) (a : Asking) : Shared × Asking :=
  steps request restWithin (s, a)

@[simp] theorem woken_asleep : asleep.woken = watching := rfl

@[simp] theorem step_returned (request : Request) (s : Shared) (text : String) :
    (returned text).step request s = (s, returned text) := rfl

end Asking

end Pseudocode
