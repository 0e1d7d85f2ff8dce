import Pseudocode.Text.Graphic

/-!
Text in double quotes, as a message shows it: with escapes for the quote, the backslash and every
character without a visible shape of its own.
-/

namespace Pseudocode.Text

def escaped (c : Char) : List Char :=
  match c with
  | '"' => ['\\', '"']
  | '\\' => ['\\', '\\']
  | '\t' => ['\\', 't']
  | '\r' => ['\\', 'r']
  | '\n' => ['\\', 'n']
  | '\x00' => ['\\', '0']
  | c =>
    if isGraphic c then [c]
    else ['\\', 'u', '\x7b'] ++ Nat.toDigits 16 c.toNat ++ ['\x7d']

def quoted (cs : List Char) : List Char :=
  '"' :: cs.flatMap escaped ++ ['"']

end Pseudocode.Text
