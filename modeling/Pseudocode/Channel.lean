import Pseudocode.Channel.Memory
import Pseudocode.Channel.State

/-!
Channels: a region of memory that two sides share. Its first four bytes are the control word, least
byte first; the other bytes hold a text in UTF-8, which ends at the first zero byte.

Every operation here is one step of one side. Who may use the text when is decided by the two
sides, through the control word.
-/

namespace Pseudocode

open Text (Bytes)

structure Channel where
  memory : Memory
  /-- The address of the control word. -/
  base : Nat
  /-- The number of bytes for the text. -/
  capacity : Nat
  /-- Whether the region was reserved for this channel alone. -/
  owned : Bool
  deriving DecidableEq, Repr

inductive ChannelError where
  | invalidCapacity (capacity : Nat)
  | allocation (bytes : Nat)
  | nullRegion
  | misaligned (alignment : Nat)
  | regionTooSmall (size least : Nat)
  deriving DecidableEq, Repr

namespace ChannelError

def message : ChannelError → String
  | invalidCapacity capacity =>
    "channel capacity must be positive (got " ++ toString capacity ++ ")"
  | allocation bytes =>
    "could not reserve " ++ toString bytes ++ " bytes for the shared channel"
  | nullRegion => "shared region pointer is null"
  | misaligned alignment =>
    "shared region must be " ++ toString alignment ++ "-byte aligned"
  | regionTooSmall size least =>
    "shared region of " ++ toString size ++ " bytes is too small (need at least " ++
      toString least ++ ")"

/-- Whether the error arises while memory is reserved. -/
def isAllocation : ChannelError → Bool
  | invalidCapacity _ | allocation _ => true
  | _ => false

end ChannelError

namespace Channel

/-- The size of the control word, and the alignment of a region. -/
def wordSize : Nat := 4

def defaultCapacity : Nat := 8192

/-- Sizes are words of 64 bits. -/
def largestSize : Nat := 18446744073709551615

/-- The address space: no larger region can be reserved. -/
def addressLimit : Nat := 140737488355328

def regionSize (capacity : Nat) : Nat := wordSize + capacity

/-- Reserves a region of zeros. -/
def create (capacity : Nat) : Except ChannelError Channel :=
  if capacity = 0 then .error (.invalidCapacity capacity)
  else if largestSize < regionSize capacity then .error (.allocation largestSize)
  else if addressLimit ≤ regionSize capacity then .error (.allocation (regionSize capacity))
  else .ok ⟨.zeros, 0, capacity, true⟩

def size (c : Channel) : Nat := regionSize c.capacity

/-! ### The control word -/

def wordBytes (a : ChannelState) : Bytes := [UInt8.ofNat a.toWord, 0, 0, 0]

/-- The number that the control word holds. -/
def word (c : Channel) : Nat :=
  (c.memory.byte c.base).toNat + 256 * (c.memory.byte (c.base + 1)).toNat +
    65536 * (c.memory.byte (c.base + 2)).toNat + 16777216 * (c.memory.byte (c.base + 3)).toNat

def state (c : Channel) : ChannelState := .ofWord c.word

def setState (c : Channel) (a : ChannelState) : Channel :=
  { c with memory := c.memory.write c.base (wordBytes a) }

/-- Forces `idle`. -/
def reset (c : Channel) : Channel := c.setState .idle

/-- Moves from `a` to `b` if that is a move of the cycle and the word holds `a`; else nothing is
changed, and the state found is the error. -/
def transition (c : Channel) (a b : ChannelState) : Except ChannelState Channel :=
  if a.canMove b && c.word == a.toWord then .ok (c.setState b) else .error c.state

/-- Uses a region of `size` bytes at an address, and makes it idle; the text is left as it is. -/
def attach (memory : Memory) (address? : Option Nat) (size : Nat) : Except ChannelError Channel :=
  match address? with
  | none => .error .nullRegion
  | some address =>
    if address % wordSize != 0 then .error (.misaligned wordSize)
    else if size < regionSize 1 then .error (.regionTooSmall size (regionSize 1))
    else .ok (reset ⟨memory, address, size - wordSize, false⟩)

/-! ### The text -/

def textBase (c : Channel) : Nat := c.base + wordSize

/-- The byte at a position of the text. -/
def textByte (c : Channel) (i : Nat) : UInt8 := c.memory.byte (c.textBase + i)

/-- Makes the whole text zero. -/
def clear (c : Channel) : Channel :=
  { c with memory := c.memory.clear c.textBase c.capacity }

/-- How much of a text is written: all of it, or what leaves room for a zero byte. -/
def fitting (c : Channel) (text : String) : Bytes :=
  (Text.encodeUtf8 text.toList).take (c.capacity - 1)

/-- The number of bytes that are written of a text. -/
def written (c : Channel) (text : String) : Nat := (c.fitting text).length

/-- Replaces the text. A character may be cut in two at the end. -/
def writeText (c : Channel) (text : String) : Channel :=
  { c.clear with memory := c.clear.memory.write c.textBase (c.fitting text) }

/-- The stored bytes of the text; all after them are zero. -/
def storedText (c : Channel) : Bytes := (c.memory.storedFrom c.textBase).take c.capacity

/-- The text up to the first zero byte, with U+FFFD for what is malformed. -/
def readText (c : Channel) : String :=
  String.ofList (Text.decodeLenient (c.storedText.takeWhile (· != 0)))

/-- The text as bytes, without the zeros at its end. -/
def textBytes (c : Channel) : Bytes :=
  (c.storedText.reverse.dropWhile (· == 0)).reverse

def stateLabel : ChannelState → String
  | .idle => "Idle"
  | .waiting => "Waiting"
  | .ready => "Ready"

def description (c : Channel) : String :=
  "SharedChannel \x7b capacity: " ++ toString c.capacity ++ ", state: " ++ stateLabel c.state ++
    ", owned: " ++ (if c.owned then "true" else "false") ++ " \x7d"

@[simp] theorem base_setState (c : Channel) (a : ChannelState) : (c.setState a).base = c.base := rfl

@[simp] theorem word_setState (c : Channel) (a : ChannelState) :
    (c.setState a).word = a.toWord := by
  simp [word, setState, Memory.byte_write, wordBytes]
  exact a.toWord_lt

@[simp] theorem state_setState (c : Channel) (a : ChannelState) : (c.setState a).state = a := by
  simp [state]

end Channel

end Pseudocode
