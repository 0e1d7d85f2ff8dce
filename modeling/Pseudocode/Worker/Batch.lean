import Pseudocode.Worker

/-!
The worker by itself: a list of orders carried out one after the other, or one program played to
its end, with no foreground to answer.
-/

namespace Pseudocode

/-- A command, with the channel that it announces. -/
inductive Order where
  | init (channel : Channel)
  | run (number : Nat) (source : String)
  | shutdown

namespace Order

/-- Queues the command, and puts the channel in place. -/
def issue (s : Shared) : Order → Shared
  | init channel => { s with channel }.command .init
  | run number source => s.command (.run number source)
  | shutdown => s.command .shutdown

end Order

namespace Worker

/-- Goes on until there is no step. -/
def work (interpreter : Interpreter) : Nat → Shared → Worker → Shared × Worker
  | 0, s, w => (s, w)
  | fuel + 1, s, w =>
    match w.step? interpreter s with
    | some (s, w) => work interpreter fuel s w
    | none => (s, w)

/-- Carries out orders, after which no more will come. -/
def attend (interpreter : Interpreter) (patience : Nat) :
    List Order → Shared → Worker → Shared × Worker
  | [], s, w => work interpreter patience { s with commanding := false } w
  | order :: orders, s, w =>
    let (s, w) := work interpreter patience (order.issue s) w
    attend interpreter patience orders s w

/-- Plays the program of a run until it is done or cannot go on. -/
def play (interpreter : Interpreter) : Nat → Shared → Worker → Option Ending × Shared × Worker
  | 0, s, w => (none, s, w)
  | fuel + 1, s, w =>
    match w.phase with
    | .running _ (.done ending) => (some ending, s, w)
    | _ =>
      match w.step? interpreter s with
      | some (s, w) => play interpreter fuel s w
      | none => (none, s, w)

/-- A worker with a channel that has just taken up a program. -/
def onProgram (run : Nat) (program : Dialogue Ending) : Worker :=
  ⟨.running run program, some 0, false⟩

end Worker

end Pseudocode
