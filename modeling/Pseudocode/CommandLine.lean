import Pseudocode.Settings

/-!
The command line: switches, parameters with a value, and at most one file.

A parameter takes its value after `=`, as the rest of a cluster of short names, or from the next
argument, which then must not look like an option. Nothing may be given twice. `--help` and
`--version` take effect where they stand, if all before them is in order. What is not given may
come from the environment.
-/

namespace Pseudocode

inductive Switch where
  | listSamples
  | noColor
  | echo
  | quiet
  deriving DecidableEq, Repr

inductive Parameter where
  | sample
  | capacity
  | logLevel
  deriving DecidableEq, Repr

structure Arguments where
  file? : Option String
  sample? : Option String
  capacity? : Option Nat
  logLevel? : Option String
  switches : List Switch
  deriving DecidableEq, Repr

/-- What the arguments ask for. -/
inductive Parsed where
  | usageError
  | help
  | version
  | arguments (arguments : Arguments)
  deriving DecidableEq, Repr

namespace CommandLine

/-- What a name stands for. -/
inductive Named where
  | switch (switch : Switch)
  | parameter (parameter : Parameter)
  | help
  | version
  deriving DecidableEq, Repr

def longName? : String → Option Named
  | "sample" => some (.parameter .sample)
  | "capacity" => some (.parameter .capacity)
  | "log-level" => some (.parameter .logLevel)
  | "list-samples" => some (.switch .listSamples)
  | "no-color" => some (.switch .noColor)
  | "echo" => some (.switch .echo)
  | "quiet" => some (.switch .quiet)
  | "help" => some .help
  | "version" => some .version
  | _ => none

def shortName? : Char → Option Named
  | 's' => some (.parameter .sample)
  | 'q' => some (.switch .quiet)
  | 'h' => some .help
  | 'V' => some .version
  | _ => none

/-- A size in bytes: digits, perhaps after a plus sign, that fit a word of 64 bits. -/
def size? (text : String) : Option Nat :=
  let digits := match text.toList with
    | '+' :: rest => rest
    | cs => cs
  let value := digits.foldl (fun n d => 10 * n + (d.toNat - '0'.toNat)) 0
  if !digits.isEmpty && digits.all Char.isDigit && value ≤ Channel.largestSize then some value
  else none

end CommandLine

namespace Arguments

open CommandLine

def empty : Arguments := ⟨none, none, none, none, []⟩

def has (a : Arguments) (switch : Switch) : Bool := a.switches.contains switch

def addSwitch? (a : Arguments) (switch : Switch) : Option Arguments :=
  if a.has switch then none else some { a with switches := switch :: a.switches }

def set? (a : Arguments) (parameter : Parameter) (value : String) : Option Arguments :=
  match parameter with
  | .sample => if a.sample?.isSome then none else some { a with sample? := some value }
  | .capacity =>
    if a.capacity?.isSome then none
    else (size? value).map fun n => { a with capacity? := some n }
  | .logLevel => if a.logLevel?.isSome then none else some { a with logLevel? := some value }

def addFile? (a : Arguments) (path : String) : Option Arguments :=
  if path.isEmpty || a.file?.isSome then none else some { a with file? := some path }

end Arguments

namespace CommandLine

/-- Whether an argument looks like an option; a single `-` does not. -/
def isOptionLike (argument : String) : Bool :=
  match argument.toList with
  | '-' :: _ :: _ => true
  | _ => false

/-- What an argument amounts to: the new arguments, perhaps with a parameter whose value is still to
come, or an end of the reading. -/
abbrev Step := Except Parsed (Arguments × Option Parameter)

def Step.ofOption : Option Arguments → Step
  | some a => .ok (a, none)
  | none => .error .usageError

/-- Takes in what a name stands for, with the value that is attached to it. -/
def takeNamed (a : Arguments) (value? : Option String) : Named → Step
  | .parameter parameter =>
    match value? with
    | some value => .ofOption (a.set? parameter value)
    | none => .ok (a, some parameter)
  | .switch switch => if value?.isSome then .error .usageError else .ofOption (a.addSwitch? switch)
  | .help => .error (if value?.isSome then .usageError else .help)
  | .version => .error (if value?.isSome then .usageError else .version)

/-- Reads what follows `--`. -/
def readLong (a : Arguments) (body : List Char) : Step :=
  let value? := match body.dropWhile (· != '=') with
    | _ :: value => some (String.ofList value)
    | [] => none
  match longName? (String.ofList (body.takeWhile (· != '='))) with
  | some named => takeNamed a value? named
  | none => .error .usageError

/-- Reads a cluster of short names. The first parameter in it takes the rest as its value. -/
def readCluster (a : Arguments) : List Char → Step
  | [] => .ok (a, none)
  | c :: rest =>
    match shortName? c with
    | none => .error .usageError
    | some (.parameter parameter) =>
      let value? := match rest with
        | [] => none
        | '=' :: value => some (String.ofList value)
        | value => some (String.ofList value)
      takeNamed a value? (.parameter parameter)
    | some named =>
      match takeNamed a none named with
      | .ok (a, _) => readCluster a rest
      | .error parsed => .error parsed

def readOne (a : Arguments) (argument : String) : Step :=
  match argument.toList with
  | '-' :: '-' :: body => readLong a body
  | '-' :: c :: rest => readCluster a (c :: rest)
  | _ => .ofOption (a.addFile? argument)

/-- Reads arguments after `--`, which are all files. -/
def readFiles : Arguments → List String → Parsed
  | a, [] => .arguments a
  | a, path :: paths =>
    match a.addFile? path with
    | some a => readFiles a paths
    | none => .usageError

def read : Arguments → List String → Parsed
  | a, [] => .arguments a
  | a, argument :: rest =>
    if argument == "--" then readFiles a rest
    else
      match readOne a argument with
      | .error parsed => parsed
      | .ok (a, none) => read a rest
      | .ok (a, some parameter) =>
        match rest with
        | [] => .usageError
        | value :: rest =>
          if isOptionLike value then .usageError
          else
            match a.set? parameter value with
            | some a => read a rest
            | none => .usageError

/-- Takes parameters that were not given from the environment, if they have a value there. -/
def fromEnvironment (environment : String → Option String) (a : Arguments) : Option Arguments := do
  let a ← match a.capacity?, environment "PCODE_CAPACITY" with
    | none, some value => a.set? .capacity value
    | _, _ => some a
  let a ← match a.logLevel?, environment "PCODE_LOG" with
    | none, some value => a.set? .logLevel value
    | _, _ => some a
  if a.has .noColor then some a
  else
    match environment "NO_COLOR" with
    | none | some "false" => some a
    | some "true" => a.addSwitch? .noColor
    | some _ => none

/-- Reads all arguments. A file and a sample exclude each other. -/
def parse (environment : String → Option String) (arguments : List String) : Parsed :=
  match read .empty arguments with
  | .arguments a =>
    match fromEnvironment environment a with
    | some a => if a.file?.isSome && a.sample?.isSome then .usageError else .arguments a
    | none => .usageError
  | parsed => parsed

end CommandLine

/-- The settings of the runner that the arguments ask for. -/
def Arguments.settings (a : Arguments) : Settings where
  capacity := a.capacity?.getD Channel.defaultCapacity
  flags := ⟨a.has .echo, !a.has .quiet, !a.has .noColor⟩

end Pseudocode
