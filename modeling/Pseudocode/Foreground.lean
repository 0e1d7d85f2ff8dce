import Pseudocode.Answering

/-!
The foreground of a runner: it numbers the runs, keeps the request that waits for an answer, and
drops events of runs that are not the active one.

A call is carried out in steps, each of which uses the shared state at most once.
-/

namespace Pseudocode

/-- Why the foreground could not do what it was asked to. -/
inductive RunnerError where
  | channel (error : ChannelError)
  | workerGone
  deriving DecidableEq, Repr

def RunnerError.message : RunnerError → String
  | channel error => "channel setup failed: " ++ error.message
  | workerGone => "background worker is no longer running"

inductive Reply where
  | started (run : Nat)
  | answered (accepted : Bool)
  | received (message : Message)
  /-- No message came. -/
  | nothing
  | done
  | failed (error : RunnerError)
  deriving DecidableEq, Repr

/-- What a reset of the channel is for. -/
inductive Errand where
  | start (run : Nat) (source : String)
  | release
  | shutdown
  deriving DecidableEq, Repr

/-- Where a call stands, named for what comes next. -/
inductive Activity where
  | idle
  /-- Make the current run stale, for a new one or for none. -/
  | superseding (source? : Option String)
  /-- Force the channel to idle. -/
  | resetting (errand : Errand)
  | waking (errand : Errand)
  /-- Give the worker its next command. -/
  | ordering (errand : Errand)
  /-- Wait for the worker to stop. -/
  | joining
  /-- Answer a request, which is pending no more. -/
  | answering (request : Request) (text : String) (stage : Answering)
  /-- Take a message; a patient call goes on until there is one. -/
  | taking (patient : Bool)
  /-- See whether the worker is still there, as no message is. -/
  | probing (patient : Bool)
  | returned (reply : Reply)
  /-- The foreground is gone, and nothing can be asked of it. -/
  | closed
  deriving DecidableEq, Repr

/-- What the foreground can be asked to do. -/
inductive Call where
  | start (source : String)
  | submit (text : String)
  | receive
  /-- Takes a message only if one comes in time. -/
  | poll
  | reset
  | close
  deriving DecidableEq, Repr

structure Foreground where
  activity : Activity
  /-- The run that was started last, until its end was received. -/
  active : Option Nat
  /-- Whether the worker has said that the channel is there. -/
  ready : Bool
  /-- The request that was received and not answered yet. -/
  pending : Option Request
  deriving DecidableEq, Repr

namespace Call

/-- An answer with nothing in it. -/
def cancel : Call := submit ""

end Call

namespace Foreground

def start : Foreground := ⟨.idle, none, false, none⟩

/-- Whether another call can begin. -/
def isFree (c : Foreground) : Bool :=
  match c.activity with
  | .idle | .returned _ => true
  | _ => false

def reply? (c : Foreground) : Option Reply :=
  match c.activity with
  | .returned reply => some reply
  | _ => none

/-- Begins a call. An answer takes the pending request; without one there is nothing to answer. -/
def begin (c : Foreground) : Call → Foreground
  | .start source => { c with activity := .superseding (some source) }
  | .submit text =>
    match c.pending with
    | none => { c with activity := .returned (.answered false) }
    | some request => { c with activity := .answering request text .looking, pending := none }
  | .receive => { c with activity := .taking true }
  | .poll => { c with activity := .taking false }
  | .reset => { c with activity := .resetting .release }
  | .close => { c with activity := .superseding none }

/-- Takes note of an event of the active run, or of none. -/
def observe (c : Foreground) : Event → Foreground
  | .ready => { c with ready := true }
  | .requested request => { c with pending := some request }
  | .produced .. => c
  | .finished .. | .failed .. => { c with active := none, pending := none }

/-- Whether a message is passed on: not an event of a run that is not active. -/
def admits (c : Foreground) : Message → Bool
  | .event event =>
    match event.run? with
    | none => true
    | some run => c.active == some run
  | _ => true

/-- Receives a message that is passed on. -/
def receive (c : Foreground) (message : Message) : Foreground :=
  let c := match message with
    | .event event => c.observe event
    | _ => c
  { c with activity := .returned (.received message) }

end Foreground

end Pseudocode
