import Pseudocode.CommandLine
import Pseudocode.Frontend
import Pseudocode.InputLines
import Pseudocode.Sample

/-!
The command: what it prints and how it ends, as a function of its arguments, its environment, the
files it can read and what the user types.
-/

namespace Pseudocode

open Text (Bytes)

inductive FileError where
  | notFound
  | notADirectory
  | isADirectory
  | notPermitted
  | nameTooLong
  deriving DecidableEq, Repr

def FileError.message : FileError → String
  | notFound => "No such file or directory (os error 2)"
  | notADirectory => "Not a directory (os error 20)"
  | isADirectory => "Is a directory (os error 21)"
  | notPermitted => "Permission denied (os error 13)"
  | nameTooLong => "File name too long (os error 36)"

/-- A failure with its causes, the nearest first. -/
structure Failure where
  message : String
  causes : List String
  deriving DecidableEq, Repr

/-- The causes, with numbers if there are several. -/
def Failure.causeLines : List String → List String
  | [] => []
  | [cause] => ["    " ++ cause ++ "\n"]
  | causes => causes.zipIdx.map fun (cause, i) => "    " ++ toString i ++ ": " ++ cause ++ "\n"

def Failure.report (f : Failure) : String :=
  "Error: " ++ f.message ++ "\n" ++
    (if f.causes.isEmpty then "" else "\nCaused by:\n" ++ String.join (causeLines f.causes))

/-- How the command ended. -/
structure Outcome where
  code : Nat
  output : String
  errors : String
  deriving DecidableEq, Repr

namespace Application

def versionLine : String := "pcode-run 0.1.0\n"

def usage : String := "Usage: pcode-run [OPTIONS] [FILE]\n"

def padRight (width : Nat) (text : String) : String :=
  text ++ String.ofList (List.replicate (width - text.length) ' ')

def sampleList : String :=
  String.join (Sample.all.map fun s => padRight 12 s.name ++ " " ++ s.title ++ "\n")

def unknownSample (name : String) : Failure :=
  let known := ", ".intercalate (Sample.all.map Sample.name)
  ⟨"unknown sample `" ++ name ++ "` (available: " ++ known ++ ")", []⟩

/-- The program of a file. -/
def readProgram (path : String) (content : Except FileError Bytes) : Except Failure String :=
  let failure := "failed to read " ++ path
  match content with
  | .error error => .error ⟨failure, [error.message]⟩
  | .ok bytes =>
    match Text.decodeStrict? bytes with
    | some text => .ok (String.ofList text)
    | none => .error ⟨failure, ["stream did not contain valid UTF-8"]⟩

/-- The program to run. -/
def source (files : String → Except FileError Bytes) (a : Arguments) : Except Failure String :=
  match a.sample?, a.file? with
  | some name, _ =>
    match Sample.find? name with
    | some sample => .ok sample.source
    | none => .error (unknownSample name)
  | none, some path => readProgram path (files path)
  | none, none =>
    .error ⟨"no program given; pass a file or --sample NAME (see --list-samples)", []⟩

def causesOf : RunnerError → List String
  | .channel error => [(RunnerError.channel error).message, error.message]
  | .workerGone => [RunnerError.workerGone.message]

/-- A runner in which a program was started. -/
def launch (interpreter : Interpreter) (patience : Nat) (settings : Settings) (program : String) :
    Except Failure Runner :=
  match Runner.spawn settings.capacity with
  | .error error => .error ⟨"failed to start runner", causesOf error⟩
  | .ok s => .ok (s.perform interpreter patience (.start program))

def failed (failure : Failure) : Outcome := ⟨1, "", failure.report⟩

/-- A terminal is colorless if the environment says anything about `NO_COLOR`. -/
def terminal (environment : String → Option String) (settings : Settings) : Terminal :=
  ⟨settings.flags, (environment "NO_COLOR").any fun value => !value.isEmpty⟩

/-- What the command is to do: to end at once, or to run a program. -/
inductive Plan where
  | finish (outcome : Outcome)
  | run (settings : Settings) (program : String)
  deriving DecidableEq, Repr

def plan (environment : String → Option String) (files : String → Except FileError Bytes)
    (arguments : List String) : Plan :=
  match CommandLine.parse environment arguments with
  | .usageError => .finish ⟨2, "", usage⟩
  | .help => .finish ⟨0, usage, ""⟩
  | .version => .finish ⟨0, versionLine, ""⟩
  | .arguments a =>
    if a.has .listSamples then .finish ⟨0, sampleList, ""⟩
    else
      match source files a with
      | .error failure => .finish (failed failure)
      | .ok program => .run a.settings program

def exitCode (success : Bool) : Nat := if success then 0 else 1

/-- Runs a program to its end, with all that the user types. -/
def runProgram (patience : Nat) (terminal : Terminal) (settings : Settings) (program : String)
    (typed : Bytes) : Outcome :=
  let interpreter := Interpreter.script patience
  match launch interpreter patience settings program with
  | .error failure => failed failure
  | .ok s =>
    let s := (InputLines.messages typed).foldl Runner.post s
    match Frontend.start.run interpreter patience patience [] s with
    | .ok (some (shown, success)) =>
      ⟨exitCode success, String.join (shown.map terminal.write), ""⟩
    | .ok none => failed ⟨"the program did not end", []⟩
    | .error error => failed ⟨error.message, []⟩

def run (patience : Nat) (environment : String → Option String)
    (files : String → Except FileError Bytes) (arguments : List String) (typed : Bytes) : Outcome :=
  match plan environment files arguments with
  | .finish outcome => outcome
  | .run settings program =>
    runProgram patience (terminal environment settings) settings program typed

end Application

end Pseudocode
