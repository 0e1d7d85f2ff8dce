import Pseudocode.Binary64.Numeral
import Pseudocode.Text.Quoted

/-!
Tokens: the literals, words and symbols of a program line. A keyword is a word; which words are
keywords is for the reader of statements to say.
-/

namespace Pseudocode

inductive Symbol where
  | plus
  | minus
  | star
  | slash
  | leftParen
  | rightParen
  | comma
  | eq
  | notEq
  | less
  | lessEq
  | greater
  | greaterEq
  deriving DecidableEq, Repr

def Symbol.name : Symbol → String
  | plus => "Plus"
  | minus => "Minus"
  | star => "Star"
  | slash => "Slash"
  | leftParen => "LParen"
  | rightParen => "RParen"
  | comma => "Comma"
  | eq => "Eq"
  | notEq => "NotEq"
  | less => "Less"
  | lessEq => "LessEq"
  | greater => "Greater"
  | greaterEq => "GreaterEq"

inductive Token where
  | number (n : Binary64)
  | text (s : String)
  | word (w : String)
  | symbol (s : Symbol)
  deriving DecidableEq, Repr

/-- How a message names a token. -/
def Token.description : Token → String
  | number n => "Number(" ++ n.literal ++ ")"
  | text s => "Str(" ++ String.ofList (Text.quoted s.toList) ++ ")"
  | word w => "Ident(" ++ String.ofList (Text.quoted w.toList) ++ ")"
  | symbol s => s.name

end Pseudocode
