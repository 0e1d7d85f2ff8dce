import Pseudocode.Message
import Pseudocode.Text.Lines
import Pseudocode.Text.Utf8

/-!
What a user types, as messages: a message for each line, without its ending, and one when the lines
are over. Bytes that are not UTF-8 end the input.
-/

namespace Pseudocode.InputLines

open Text (Bytes)

def lineFeed : UInt8 := 10

/-- A line without the line feed at its end, and then without a carriage return. -/
def withoutEnding (line : List Char) : List Char :=
  Text.dropLastIf '\r' (Text.dropLastIf '\n' line)

/-- The message for a line, if it is UTF-8. -/
def ofPiece? (piece : Bytes) : Option Message :=
  (Text.decodeStrict? piece).map fun line => .line (String.ofList (withoutEnding line))

def ofPieces : List Bytes → List Message
  | [] => [.closed]
  | piece :: pieces =>
    match ofPiece? piece with
    | some message => message :: ofPieces pieces
    | none => [.closed]

def messages (bytes : Bytes) : List Message :=
  ofPieces (Text.cutAfter lineFeed bytes)

end Pseudocode.InputLines
