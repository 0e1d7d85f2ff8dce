import Pseudocode.Channel

/-!
Settings of a runner: what the terminal shows, and the capacity of the channel.
-/

namespace Pseudocode

structure Flags where
  /-- Answers are written after their prompts. -/
  echoInput : Bool
  /-- The end of a program is reported. -/
  showSummary : Bool
  color : Bool
  deriving DecidableEq, Repr

namespace Flags

def default : Flags := ⟨false, true, true⟩

def weight (flag : Bool) (bit : Nat) : Nat := if flag then bit else 0

/-- The flags as the lowest three bits of a number. -/
def toBits (f : Flags) : Nat :=
  weight f.echoInput 1 + weight f.showSummary 2 + weight f.color 4

/-- Higher bits than the lowest three are dropped. -/
def ofBits (n : Nat) : Flags :=
  ⟨n % 2 == 1, n / 2 % 2 == 1, n / 4 % 2 == 1⟩

/-- Gives the flags that are on in `which` the value `enabled`. -/
def assign (f which : Flags) (enabled : Bool) : Flags where
  echoInput := if which.echoInput then enabled else f.echoInput
  showSummary := if which.showSummary then enabled else f.showSummary
  color := if which.color then enabled else f.color

@[simp] theorem ofBits_toBits (f : Flags) : ofBits f.toBits = f := by
  cases f with
  | mk e s c => cases e <;> cases s <;> cases c <;> rfl

end Flags

structure Settings where
  /-- Answers are cut to fewer bytes than this. -/
  capacity : Nat
  flags : Flags
  deriving DecidableEq, Repr

def Settings.default : Settings := ⟨Channel.defaultCapacity, .default⟩

end Pseudocode
