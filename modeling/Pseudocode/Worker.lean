import Pseudocode.Asking
import Pseudocode.Interpreter

/-!
The worker: it takes commands and runs one program at a time. A step uses the shared state at most
once. The worker has no step while it waits for a command, sleeps in a request, or has stopped.
-/

namespace Pseudocode

/-- Where the worker stands, named for what comes next. -/
inductive Phase where
  /-- Take the next command. -/
  | idle
  /-- Say that the channel is there. -/
  | announcing
  /-- See whether the run is still the current one. -/
  | starting (run : Nat) (source : String)
  /-- Say that a run came before the channel. -/
  | refusing (run : Nat)
  | running (run : Nat) (program : Dialogue Ending)
  | asking (request : Request) (stage : Asking) (next : String → Dialogue Ending)
  /-- Say how the run ended. -/
  | reporting (event : Event)
  | stopped (crashed : Bool)

structure Worker where
  phase : Phase
  /-- The number of the last request; none before the channel is there. -/
  lastRequest? : Option Nat
  /-- Whether an output of the current run could not be sent. -/
  disconnected : Bool

namespace Worker

def start : Worker := ⟨.idle, none, false⟩

def hasStopped (w : Worker) : Bool :=
  match w.phase with
  | .stopped _ => true
  | _ => false

/-- Whether the program of run `run` is to stop. -/
def isCanceled (w : Worker) (s : Shared) (run : Nat) : Bool :=
  w.disconnected || s.generation != run

/-- The request that the program of run `run` makes next. Requests are numbered from 1. -/
def newRequest (w : Worker) (run : Nat) (prompt : String) : Request :=
  ⟨run, w.lastRequest?.getD 0 + 1, prompt⟩

def stop (w : Worker) (crashed : Bool) : Worker := { w with phase := .stopped crashed }

/-- Takes a command. -/
def obey (w : Worker) : Command → Worker
  | .init => { w with phase := .announcing, lastRequest? := some 0 }
  | .run run source => { w with phase := .starting run source }
  | .shutdown => w.stop false

/-- Sends an event and waits for a command; without a receiver the worker stops. -/
def report (w : Worker) (s : Shared) (event : Event) : Shared × Worker :=
  match s.sendEvent? event with
  | some s => (s, { w with phase := .idle })
  | none => (s, w.stop false)

/-- Goes on with the program of a run. A canceled run ends without a word; so does one that was cut
off, which is at some loop for as long as it is the current one. -/
def advance (w : Worker) (s : Shared) (run : Nat) : Dialogue Ending → Option (Shared × Worker)
  | .check next => some (s, { w with phase := .running run (next (w.isCanceled s run)) })
  | .tell text next =>
    match s.sendEvent? (.produced run text) with
    | some s => some (s, { w with phase := .running run (next ()) })
    | none => some (s, { w with phase := .running run (next ()), disconnected := true })
  | .ask prompt next =>
    let request := w.newRequest run prompt
    some (s, { w with phase := .asking request .claiming next, lastRequest? := some request.id })
  | .done (.finished summary) => some (s, { w with phase := .reporting (.finished run summary) })
  | .done (.failed fault) => some (s, { w with phase := .reporting (.failed run fault.message) })
  | .done .canceled => some (s, { w with phase := .idle })
  | .done .crashed => some (s, w.stop true)
  | .done .exhausted => if w.isCanceled s run then some (s, { w with phase := .idle }) else none

/-- One step of the worker, if it has one. -/
def step? (interpreter : Interpreter) (s : Shared) (w : Worker) : Option (Shared × Worker) :=
  match w.phase with
  | .idle =>
    match s.commands with
    | command :: commands => some ({ s with commands }, w.obey command)
    | [] => if s.commanding then none else some (s, w.stop false)
  | .announcing => some (w.report s .ready)
  | .starting run source =>
    if s.generation ≠ run then some (s, { w with phase := .idle })
    else if w.lastRequest?.isNone then some (s, { w with phase := .refusing run })
    else some (s, { w with phase := .running run (interpreter source), disconnected := false })
  | .refusing run => some (w.report s (.failed run "worker has not been initialized"))
  | .running run program => w.advance s run program
  | .asking _ .asleep _ => none
  | .asking request (.returned text) next =>
    some (s, { w with phase := .running request.run (next text) })
  | .asking request stage next =>
    let (s, stage) := stage.step request s
    some (s, { w with phase := .asking request stage next })
  | .reporting event => some (w.report s event)
  | .stopped _ => none

/-- What a wake does to the worker. -/
def woken (w : Worker) : Worker :=
  match w.phase with
  | .asking request stage next => { w with phase := .asking request stage.woken next }
  | _ => w

end Worker

end Pseudocode
