import Pseudocode.Text.Title

/-!
The bundled programs.
-/

namespace Pseudocode

structure Sample where
  name : String
  source : String
  deriving DecidableEq, Repr

namespace Sample

def welcome : Sample where
  name := "welcome"
  source := "output \"Welcome\"\nloop COUNT from 1 to 5\n  output COUNT\nend loop\n"

def inputDemo : Sample where
  name := "input_demo"
  source := "output \"Enter something\"\nVALUE = input(\"Your value:\")\n" ++
    "output \"You entered:\", VALUE\noutput \"Done\"\n"

def average : Sample where
  name := "average"
  source := "// Reads numbers until an empty line, then prints their average.\n" ++
    "SUM = 0\nCOUNT = 0\ninput N\nloop while N != \"\"\n  SUM = SUM + N\n" ++
    "  COUNT = COUNT + 1\n  input N\nend loop\nif COUNT = 0 then\n" ++
    "  output \"No numbers entered\"\nelse\n  output \"Average:\", SUM / COUNT\nend if\n"

def countdown : Sample where
  name := "countdown"
  source := "input START\nloop until START < 0\n  output START\n  START = START - 1\nend loop\n" ++
    "output \"Liftoff\"\n"

/-- All samples, in the order of their listing. -/
def all : List Sample := [welcome, inputDemo, average, countdown]

def find? (name : String) : Option Sample :=
  all.find? (·.name == name)

def title (sample : Sample) : String :=
  Text.title sample.name

end Sample

end Pseudocode
