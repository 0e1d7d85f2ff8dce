import Pseudocode.Settings

/-!
The terminal: what is written for a prompt, an answer, a line of output and the end of a program.
Styles are ANSI escape sequences, and come only with the flag `color`.
-/

namespace Pseudocode

namespace Ansi

/-- The sequence that selects something. -/
def select (parameters : String) : String := "\x1b[" ++ parameters ++ "m"

def bold : String := select "1"

def plain : String := select "0"

def cyan : String := "38;5;14"

def green : String := "38;5;10"

def red : String := "38;5;9"

/-- Back to the usual foreground. -/
def usual : String := "39"

end Ansi

/-- A terminal. On one that does without colors the sequences that select a color say nothing. -/
structure Terminal where
  flags : Flags
  colorless : Bool
  deriving DecidableEq, Repr

namespace Terminal

def colorSequence (c : Terminal) (color : String) : String :=
  Ansi.select (if c.colorless then "" else color)

/-- Text in a color and in bold. -/
def strong (c : Terminal) (color text : String) : String :=
  if c.flags.color then c.colorSequence color ++ Ansi.bold ++ text ++ Ansi.plain else text

/-- Text in a color. -/
def tinted (c : Terminal) (color text : String) : String :=
  if c.flags.color then c.colorSequence color ++ text ++ c.colorSequence Ansi.usual else text

/-- A prompt and a space; the answer follows on the same line. -/
def prompt (c : Terminal) (text : String) : String :=
  c.strong Ansi.cyan (text ++ " ")

def echo (c : Terminal) (answer : String) : String :=
  if c.flags.echoInput then answer ++ "\n" else ""

def output (_ : Terminal) (text : String) : String := text ++ "\n"

def finished (c : Terminal) (summary : String) : String :=
  if c.flags.showSummary then c.tinted Ansi.green summary ++ "\n" else ""

def failed (c : Terminal) (message : String) : String :=
  c.strong Ansi.red ("Error: " ++ message) ++ "\n"

end Terminal

end Pseudocode
