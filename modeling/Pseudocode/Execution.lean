import Pseudocode.Evaluation
import Pseudocode.Program.Block

/-!
Running statements. A statement asks whether the run was canceled before it does anything, and a
loop asks again before each pass. The passes of one loop that no count bounds are limited by a
`patience`; a run that uses it up ends as `exhausted`, which no program can observe.
-/

namespace Pseudocode

/-- Why a run stops before its end. -/
inductive Stop where
  | fault (fault : Fault)
  | canceled
  | exhausted
  deriving DecidableEq, Repr

/-- What running some statements does: it ends with or without a stop, in a changed scope. -/
abbrev Action := Scope → Dialogue (Option Stop × Scope)

namespace Action

def skip : Action := fun scope => .done (none, scope)

def stop (reason : Stop) : Action := fun scope => .done (some reason, scope)

/-- `first`, and then `second` unless the run has stopped. -/
def andThen (first second : Action) : Action := fun scope => do
  match ← first scope with
  | (none, scope) => second scope
  | (some reason, scope) => stop reason scope

/-- Stops the run if it was canceled. -/
def unlessCanceled (action : Action) : Action := fun scope =>
  .check fun canceled => if canceled then stop .canceled scope else action scope

/-- Evaluates something and goes on with its value; a fault is one of line `line`. -/
def evaluate {α : Type} (line : Nat) (evaluation : Scope → Evaluation α) (next : α → Action) :
    Action := fun scope => do
  match ← (evaluation scope).run with
  | .ok a => next a scope
  | .error cause => stop (.fault ⟨line, cause⟩) scope

def assign (name : String) (value : Value) : Action := fun scope =>
  .done (none, scope.set name value)

def tell (text : String) : Action := fun scope =>
  .tell text fun _ => skip scope

def ask (prompt : String) (next : String → Action) : Action := fun scope =>
  .ask prompt fun answer => next answer scope

/-- Runs `body` with `name` set to `i`, `i + 1`, … for a number of passes. -/
def count (name : String) (body : Action) : Nat → Int → Action
  | 0, _ => skip
  | passes + 1, i =>
    unlessCanceled fun scope =>
      (assign name (.number (.ofInt i))).andThen
        (body.andThen (count name body passes (i + 1))) scope

/-- Runs `body` until `condition` has the value `stopAt`. -/
def iterate (line : Nat) (condition : Scope → Evaluation Bool) (stopAt : Bool) (body : Action) :
    Nat → Action
  | 0 => stop .exhausted
  | patience + 1 =>
    unlessCanceled <| evaluate line condition fun value scope =>
      if value == stopAt then skip scope
      else body.andThen (iterate line condition stopAt body patience) scope

end Action

namespace Statement

mutual

def run (patience : Nat) : Statement → Action
  | .output line arguments =>
    Action.unlessCanceled <| Action.evaluate line (Expr.line · arguments) Action.tell
  | .input _ (.var name) =>
    Action.unlessCanceled <| Action.ask name fun answer => Action.assign name (.ofAnswer answer)
  | .input line (.prompt prompt) =>
    Action.unlessCanceled <| Action.evaluate line prompt.eval fun v =>
      Action.ask v.display fun _ => Action.skip
  | .assign line name value =>
    Action.unlessCanceled <| Action.evaluate line value.eval (Action.assign name)
  | .choose line branches otherwise =>
    Action.unlessCanceled (runBranches patience line (runAll patience otherwise) branches)
  | .count line name first last body =>
    Action.unlessCanceled <| Action.evaluate line first.bound fun a =>
      Action.evaluate line last.bound fun b =>
        Action.count name (runAll patience body) (b + 1 - a).toNat a
  | .iterate line condition stopAt body =>
    Action.unlessCanceled <|
      Action.iterate line condition.condition stopAt (runAll patience body) patience

def runAll (patience : Nat) : List Statement → Action
  | [] => Action.skip
  | statement :: statements => (run patience statement).andThen (runAll patience statements)

def runBranches (patience line : Nat) (otherwise : Action) :
    List (Expr × List Statement) → Action
  | [] => otherwise
  | (condition, body) :: branches =>
    Action.evaluate line condition.condition fun value =>
      if value then runAll patience body else runBranches patience line otherwise branches

end

end Statement

end Pseudocode
