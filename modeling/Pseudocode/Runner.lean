import Pseudocode.Foreground
import Pseudocode.Worker

/-!
Runners: a foreground and its worker. The two sides move in any order, a step at a time. `perform`
follows one of these orders, in which the worker moves only while the foreground waits for a
message.
-/

namespace Pseudocode

structure Runner where
  shared : Shared
  worker : Worker
  foreground : Foreground

namespace Runner

/-- A runner with a channel of its own, which the worker is told of. -/
def spawn (capacity : Nat) : Except RunnerError Runner :=
  match Channel.create capacity with
  | .error error => .error (.channel error)
  | .ok channel => .ok ⟨(Shared.ofChannel channel 0).command .init, .start, .start⟩

/-- Puts a message into the inbox from outside. -/
def post (s : Runner) (message : Message) : Runner := { s with shared := s.shared.post message }

def setActivity (s : Runner) (activity : Activity) : Runner :=
  { s with foreground := { s.foreground with activity } }

def begin (s : Runner) (call : Call) : Runner :=
  { s with foreground := s.foreground.begin call }

/-- Makes the current run stale; a new one becomes active. -/
def supersede (s : Runner) (source? : Option String) : Runner :=
  let run := s.shared.generation + 1
  let shared := { s.shared with generation := run }
  match source? with
  | some source =>
    { s with
      shared
      foreground :=
        { s.foreground with active := some run, activity := .resetting (.start run source) } }
  | none => { s with shared, foreground := { s.foreground with activity := .resetting .shutdown } }

/-- Wakes the worker. The request of an earlier run is dropped. -/
def wake (s : Runner) (errand : Errand) : Runner :=
  let s := { s with worker := s.worker.woken }
  match errand with
  | .start .. =>
    { s with foreground := { s.foreground with activity := .ordering errand, pending := none } }
  | .release => s.setActivity (.returned .done)
  | .shutdown => s.setActivity (.ordering errand)

/-- Gives the worker a command. If the worker has stopped, nobody takes it. -/
def order (s : Runner) : Errand → Runner
  | .start run source =>
    if s.worker.hasStopped then s.setActivity (.returned (.failed .workerGone))
    else { s with shared := s.shared.command (.run run source) }.setActivity
      (.returned (.started run))
  | .release => s.setActivity (.returned .done)
  | .shutdown =>
    if s.worker.hasStopped then s.setActivity .joining
    else { s with shared := s.shared.command .shutdown }.setActivity .joining

/-- Goes on with an answer; its last step wakes the worker. -/
def answer (s : Runner) (request : Request) (text : String) (stage : Answering) : Runner :=
  let (shared, stage') := stage.step text s.shared
  let worker := if stage = .waking then s.worker.woken else s.worker
  let activity := match stage' with
    | .returned accepted => .returned (.answered accepted)
    | stage' => .answering request text stage'
  { s with shared, worker }.setActivity activity

/-- Takes the oldest message, and drops it if it is not passed on. -/
def take (s : Runner) (patient : Bool) : Runner :=
  match s.shared.inbox with
  | [] => s.setActivity (.probing patient)
  | message :: inbox =>
    let s := { s with shared := { s.shared with inbox } }
    if s.foreground.admits message then { s with foreground := s.foreground.receive message } else s

/-- One step of the foreground, if it has one. -/
def foregroundStep? (s : Runner) : Option Runner :=
  match s.foreground.activity with
  | .idle | .returned _ | .closed => none
  | .superseding source? => some (s.supersede source?)
  | .resetting errand =>
    some ({ s with shared := s.shared.resetChannel }.setActivity (.waking errand))
  | .waking errand => some (s.wake errand)
  | .ordering errand => some (s.order errand)
  | .joining => if s.worker.hasStopped then some (s.setActivity .closed) else none
  | .answering request text stage => some (s.answer request text stage)
  | .taking patient => some (s.take patient)
  | .probing patient =>
    some (s.setActivity (
      if s.worker.hasStopped then .returned (.failed .workerGone)
      else if patient then .taking true
      else .returned .nothing))

def workerStep? (interpreter : Interpreter) (s : Runner) : Option Runner :=
  (s.worker.step? interpreter s.shared).map fun (shared, worker) => { s with shared, worker }

/-- Goes on with a call until it has returned. While it waits for a message the worker moves, and
if neither can go on nothing does. -/
def proceed (interpreter : Interpreter) : Nat → Runner → Runner
  | 0, s => s
  | fuel + 1, s =>
    match s.foreground.activity with
    | .idle | .returned _ | .closed => s
    | .taking patient =>
      if s.shared.inbox.isEmpty then
        match s.workerStep? interpreter with
        | some t => proceed interpreter fuel t
        | none => if patient && !s.worker.hasStopped then s else
          match s.foregroundStep? with
          | some t => proceed interpreter fuel t
          | none => s
      else proceed interpreter fuel (s.take patient)
    | .joining =>
      match s.workerStep? interpreter <|> s.foregroundStep? with
      | some t => proceed interpreter fuel t
      | none => s
    | _ =>
      match s.foregroundStep? with
      | some t => proceed interpreter fuel t
      | none => s

/-- Ends a call without the worker: messages that are already there are still taken. -/
def conclude : Nat → Runner → Runner
  | 0, s => s
  | fuel + 1, s =>
    match s.foregroundStep? with
    | some t => conclude fuel t
    | none => s

/-- Carries out a call, with at most `patience` steps before it gives up waiting. -/
def perform (interpreter : Interpreter) (patience : Nat) (s : Runner) (call : Call) : Runner :=
  let s := proceed interpreter patience (s.begin call)
  conclude (s.shared.inbox.length + 2) s

end Runner

end Pseudocode
