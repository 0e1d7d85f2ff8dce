import Pseudocode.Application

/-!
The program that runs in a terminal. Lines are read only when a request waits for one.
-/

namespace Pseudocode.Application

/-- More passes of a loop than anybody waits for. -/
def endlessPatience : Nat := 4611686018427387904

def errorOfIO : IO.Error → FileError
  | .noFileOrDirectory .. | .noSuchThing .. => .notFound
  | .inappropriateType _ code _ => if code == 21 then .isADirectory else .notADirectory
  | .invalidArgument .. => .nameTooLong
  | .permissionDenied .. => .notPermitted
  | _ => .notFound

def readBytes (path : String) : IO (Except FileError Text.Bytes) := do
  try
    return .ok (← IO.FS.readBinFile path).toList
  catch error => return .error (errorOfIO error)

def write (stream : IO.FS.Stream) (text : String) : IO Unit := do
  stream.putStr text
  stream.flush

/-- The bytes up to the next line feed, or to the end of the input. -/
partial def readPiece (stream : IO.FS.Stream) (piece : Text.Bytes) : IO Text.Bytes := do
  match (← stream.read 1).toList with
  | [] => return piece.reverse
  | byte :: _ =>
    if byte == InputLines.lineFeed then return (byte :: piece).reverse
    else readPiece stream (byte :: piece)

/-- The next line that the user types. -/
def nextMessage : IO Message := do
  let piece ← readPiece (← IO.getStdin) []
  return if piece.isEmpty then .closed else (InputLines.ofPiece? piece).getD .closed

/-- Takes turns until the program has ended. -/
partial def converse (interpreter : Interpreter) (terminal : Terminal) (f : Frontend) (s : Runner) :
    IO Nat := do
  match f.turn interpreter endlessPatience s with
  | .error error =>
    write (← IO.getStderr) (Failure.report ⟨error.message, []⟩)
    return 1
  | .ok none => converse interpreter terminal f (s.post (← nextMessage))
  | .ok (some (reaction, s)) =>
    write (← IO.getStdout) (String.join (reaction.shown.map terminal.write))
    match reaction.success? with
    | some success => return exitCode success
    | none => converse interpreter terminal reaction.frontend s

def finish (outcome : Outcome) : IO Nat := do
  write (← IO.getStdout) outcome.output
  write (← IO.getStderr) outcome.errors
  return outcome.code

/-- The file that the arguments name, if they name one. -/
def namedFile (environment : String → Option String) (arguments : List String) : Option String :=
  match CommandLine.parse environment arguments with
  | .arguments a => if a.has .listSamples || a.sample?.isSome then none else a.file?
  | _ => none

def execute (arguments : List String) : IO Nat := do
  let names := ["PCODE_CAPACITY", "PCODE_LOG", "NO_COLOR"]
  let values ← names.mapM fun name => IO.getEnv name
  let environment (name : String) : Option String := ((names.zip values).lookup name).join
  let content ← match namedFile environment arguments with
    | some path => readBytes path
    | none => pure (.error .notFound)
  match plan environment (fun _ => content) arguments with
  | .finish outcome => finish outcome
  | .run settings program =>
    let interpreter := Interpreter.script endlessPatience
    match launch interpreter endlessPatience settings program with
    | .error failure => finish (failed failure)
    | .ok s => converse interpreter (terminal environment settings) .start s

end Pseudocode.Application

def main (arguments : List String) : IO UInt32 := do
  return UInt32.ofNat (← Pseudocode.Application.execute arguments)
