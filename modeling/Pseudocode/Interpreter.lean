import Pseudocode.Execution

/-!
Interpreters: what turns the source of a program into a dialogue. The dialogue starts from the
source alone, so no run sees anything of an earlier one.
-/

namespace Pseudocode

/-- How a run ends. -/
inductive Ending where
  | finished (summary : String)
  | failed (fault : Fault)
  | canceled
  /-- The interpreter itself broke down. -/
  | crashed
  /-- The run was cut off after more passes of one loop than it was given. -/
  | exhausted
  deriving DecidableEq, Repr

def Ending.ofStop : Stop → Ending
  | .fault fault => failed fault
  | .canceled => canceled
  | .exhausted => exhausted

abbrev Interpreter := String → Dialogue Ending

namespace Interpreter

def summary : String := "Program finished successfully"

/-- Reads the source as a program and runs it in an empty scope. -/
def script (patience : Nat) : Interpreter := fun source =>
  match Program.ofSource source with
  | .error fault => .done (.failed fault)
  | .ok statements => do
    match ← Statement.runAll patience statements [] with
    | (none, _) => return .finished summary
    | (some reason, _) => return .ofStop reason

/-- Asks the lines of the source one after the other and tells each answer. -/
def surveyLines : List (List Char) → Dialogue Ending
  | [] => .done (.finished "recorder done")
  | line :: lines =>
    .ask (String.ofList line) fun answer =>
      .check fun canceled =>
        if canceled then .done .canceled
        else .tell ("got " ++ answer) fun _ => surveyLines lines

def survey : Interpreter := fun source =>
  surveyLines (Text.lines source.toList)

/-- Breaks down at once. -/
def broken : Interpreter := fun _ => .done .crashed

end Interpreter

end Pseudocode
