import Pseudocode.Text.Blank
import Pseudocode.Text.Case

/-!
Titles. The words of a key are separated by `_`, `-` or a blank, and a new word also starts at an
upper-case letter after a lower-case one or a digit; the title writes each word with a capital.
-/

namespace Pseudocode.Text

def isSeparator (c : Char) : Bool :=
  c == '_' || c == '-' || isBlank c

/-- Whether an upper-case letter after `c` starts a new word. -/
def endsHump (c : Char) : Bool :=
  isLowercase c || c.isDigit

/-- The words of a key; `word` is what has been read of the current one. -/
def wordsFrom (word : List Char) : List Char → List (List Char)
  | [] => if word.isEmpty then [] else [word]
  | c :: rest =>
    if isSeparator c then
      if word.isEmpty then wordsFrom [] rest else word :: wordsFrom [] rest
    else if isUppercase c && (word.getLast?.any endsHump) then word :: wordsFrom [c] rest
    else wordsFrom (word ++ [c]) rest

def capitalized : List Char → List Char
  | [] => []
  | first :: rest => toUppercase first ++ rest.flatMap toLowercase

def title (key : String) : String :=
  String.ofList (([' '].intercalate ((wordsFrom [] key.toList).map capitalized)))

end Pseudocode.Text
