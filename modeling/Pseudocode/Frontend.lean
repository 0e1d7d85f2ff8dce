import Pseudocode.Terminal
import Pseudocode.Runner

/-!
The front end: it shows what a program does and answers its requests with the lines that a user
types. Lines that come before a request wait for one, in order, and when the user will type no more
every request gets an empty answer.
-/

namespace Pseudocode

/-- What the user is shown. -/
inductive Shown where
  | prompt (text : String)
  | echo (answer : String)
  | output (text : String)
  | finished (summary : String)
  | failed (message : String)
  deriving DecidableEq, Repr

def Terminal.write (c : Terminal) : Shown → String
  | .prompt text => c.prompt text
  | .echo answer => c.echo answer
  | .output text => c.output text
  | .finished summary => c.finished summary
  | .failed message => c.failed message

structure Frontend where
  /-- Lines that wait for a request, the oldest first. -/
  queued : List String
  /-- Whether the user will type no more. -/
  inputClosed : Bool
  deriving DecidableEq, Repr

/-- What the front end does about a message: it shows something, and perhaps answers the pending
request or ends with success or failure. -/
structure Reaction where
  frontend : Frontend
  shown : List Shown
  answer? : Option String
  success? : Option Bool
  deriving DecidableEq, Repr

namespace Frontend

def start : Frontend := ⟨[], false⟩

/-- Shows something and does nothing else. -/
def display (f : Frontend) (shown : List Shown) : Reaction := ⟨f, shown, none, none⟩

def react (f : Frontend) (isPending : Bool) : Message → Reaction
  | .event .ready => f.display []
  | .event (.requested request) =>
    match f.queued with
    | answer :: queued =>
      ⟨{ f with queued }, [.prompt request.prompt, .echo answer], some answer, none⟩
    | [] =>
      if f.inputClosed then ⟨f, [.prompt request.prompt, .echo ""], some "", none⟩
      else f.display [.prompt request.prompt]
  | .event (.produced _ text) => f.display [.output text]
  | .event (.finished _ summary) => ⟨f, [.finished summary], none, some true⟩
  | .event (.failed _ message) => ⟨f, [.failed message], none, some false⟩
  | .line text =>
    if isPending then ⟨f, [.echo text], some text, none⟩
    else { f with queued := f.queued ++ [text] }.display []
  | .closed =>
    let f := { f with inputClosed := true }
    if isPending then ⟨f, [.echo ""], some "", none⟩ else f.display []

/-- Receives one message and reacts to it. Nothing happens while no message comes. -/
def turn (interpreter : Interpreter) (patience : Nat) (f : Frontend) (s : Runner) :
    Except RunnerError (Option (Reaction × Runner)) :=
  let s := s.perform interpreter patience .receive
  match s.foreground.reply? with
  | some (.received message) =>
    let reaction := f.react s.foreground.pending.isSome message
    match reaction.answer? with
    | some answer =>
      .ok (some (reaction, s.perform interpreter patience (.submit answer)))
    | none => .ok (some (reaction, s))
  | some (.failed error) => .error error
  | _ => .ok none

/-- Takes turns until the program has ended: what was shown, and whether the program succeeded.
`none` stands for a program that was still going when the turns were over. -/
def run (interpreter : Interpreter) (patience : Nat) :
    Nat → List Shown → Frontend → Runner → Except RunnerError (Option (List Shown × Bool))
  | 0, _, _, _ => .ok none
  | turns + 1, shown, f, s =>
    match f.turn interpreter patience s with
    | .error error => .error error
    | .ok none => .ok none
    | .ok (some (reaction, s)) =>
      let shown := reaction.shown.reverse ++ shown
      match reaction.success? with
      | some success => .ok (some (shown.reverse, success))
      | none => run interpreter patience turns shown reaction.frontend s

end Frontend

end Pseudocode
