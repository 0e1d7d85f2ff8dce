import Pseudocode.Channel
import Pseudocode.Message

/-!
What the worker and the foreground share: the channel, the number of the current run, and a queue
in each direction.
-/

namespace Pseudocode

structure Shared where
  channel : Channel
  /-- The number of the current run; it grows with every start. -/
  generation : Nat
  /-- Messages on their way to the foreground, the oldest first. -/
  inbox : List Message
  /-- Whether somebody can still take messages from the inbox. -/
  listening : Bool
  /-- Commands on their way to the worker, the oldest first. -/
  commands : List Command
  /-- Whether commands can still be added. -/
  commanding : Bool
  deriving DecidableEq, Repr

namespace Shared

def ofChannel (channel : Channel) (generation : Nat) : Shared :=
  ⟨channel, generation, [], true, [], true⟩

/-- Appends a message to the inbox. -/
def post (s : Shared) (message : Message) : Shared := { s with inbox := s.inbox ++ [message] }

/-- Appends a message to the inbox, if somebody listens. -/
def send? (s : Shared) (message : Message) : Option Shared :=
  if s.listening then some (s.post message) else none

def sendEvent? (s : Shared) (event : Event) : Option Shared := s.send? (.event event)

def command (s : Shared) (command : Command) : Shared :=
  { s with commands := s.commands ++ [command] }

def resetChannel (s : Shared) : Shared := { s with channel := s.channel.reset }

end Shared

end Pseudocode
