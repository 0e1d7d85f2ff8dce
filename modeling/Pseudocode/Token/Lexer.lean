import Pseudocode.Fault
import Pseudocode.Text.Letter
import Pseudocode.Text.Lines

/-!
Lexing. A statement never spans lines, so each line is split into tokens on its own: the longest
token first, blanks skipped, and nothing read after `//`. Lines without tokens are dropped; the
others keep their number in the source.
-/

namespace Pseudocode

namespace Token

def startsWord (c : Char) : Bool :=
  Text.isAlphabetic c || c == '_'

def continuesWord (c : Char) : Bool :=
  Text.isAlphanumeric c || c == '_'

def isNumeralChar (c : Char) : Bool :=
  c.isDigit || c == '.'

/-- The symbol that starts with `c`, and the characters after it. -/
def symbol? (c : Char) (rest : List Char) : Option (Symbol × List Char) :=
  match c, rest with
  | '+', rest => some (.plus, rest)
  | '-', rest => some (.minus, rest)
  | '*', rest => some (.star, rest)
  | '/', rest => some (.slash, rest)
  | '(', rest => some (.leftParen, rest)
  | ')', rest => some (.rightParen, rest)
  | ',', rest => some (.comma, rest)
  | '=', '=' :: rest => some (.eq, rest)
  | '=', rest => some (.eq, rest)
  | '!', '=' :: rest => some (.notEq, rest)
  | '≠', rest => some (.notEq, rest)
  | '<', '=' :: rest => some (.lessEq, rest)
  | '<', rest => some (.less, rest)
  | '>', '=' :: rest => some (.greaterEq, rest)
  | '>', rest => some (.greater, rest)
  | '≤', rest => some (.lessEq, rest)
  | '≥', rest => some (.greaterEq, rest)
  | _, _ => none

/-- The token that starts with `c`, and the characters after it. -/
def first (c : Char) (rest : List Char) : Except Complaint (Token × List Char) :=
  if c == '"' then
    match rest.dropWhile (· != '"') with
    | [] => .error .unterminatedText
    | _ :: after => .ok (.text (String.ofList (rest.takeWhile (· != '"'))), after)
  else if isNumeralChar c then
    match Decimal.read (c :: rest.takeWhile isNumeralChar) with
    | some n => .ok (.number n, rest.dropWhile isNumeralChar)
    | none => .error (.invalidNumber (String.ofList (c :: rest.takeWhile isNumeralChar)))
  else if startsWord c then
    .ok (.word (String.ofList (c :: rest.takeWhile continuesWord)), rest.dropWhile continuesWord)
  else
    match symbol? c rest with
    | some (s, after) => .ok (.symbol s, after)
    | none => .error (.unexpectedCharacter c)

theorem length_symbol? {c : Char} {rest after : List Char} {s : Symbol}
    (h : symbol? c rest = some (s, after)) : after.length ≤ rest.length := by
  unfold symbol? at h
  split at h <;> simp at h <;> obtain ⟨-, rfl⟩ := h <;> simp

theorem length_first {c : Char} {rest after : List Char} {token : Token}
    (h : first c rest = .ok (token, after)) : after.length ≤ rest.length := by
  unfold first at h
  split at h
  · split at h
    · simp at h
    · next heq =>
      have := (List.dropWhile_sublist (· != '"') (l := rest)).length_le
      simp_all
      omega
  split at h
  · split at h <;> simp at h
    exact h.2 ▸ (List.dropWhile_sublist _).length_le
  split at h
  · simp at h
    exact h.2 ▸ (List.dropWhile_sublist _).length_le
  split at h
  · next heq =>
    simp at h
    exact h.2 ▸ length_symbol? heq
  · simp at h

/-- The tokens of one line. -/
def scan : List Char → Except Complaint (List Token)
  | [] => .ok []
  | c :: rest =>
    if Text.isBlank c then scan rest
    else if c == '/' && rest.head? == some '/' then .ok []
    else
      match _h : first c rest with
      | .error complaint => .error complaint
      | .ok (token, after) =>
        match scan after with
        | .error complaint => .error complaint
        | .ok tokens => .ok (token :: tokens)
termination_by cs => cs.length
decreasing_by
  · simp
  · exact Nat.lt_succ_of_le (length_first (by assumption))

end Token

/-- A line of a program, by its number in the source, with at least one token. -/
structure Line where
  number : Nat
  tokens : List Token
  deriving DecidableEq, Repr

namespace Line

/-- The lines that have tokens; the first line given has the number `number`. -/
def ofTexts (number : Nat) : List (List Char) → Except Fault (List Line)
  | [] => .ok []
  | text :: texts =>
    match Token.scan text with
    | .error complaint => .error ⟨number, .malformed complaint⟩
    | .ok tokens =>
      match ofTexts (number + 1) texts with
      | .error fault => .error fault
      | .ok lines => .ok (if tokens.isEmpty then lines else ⟨number, tokens⟩ :: lines)

def ofSource (source : String) : Except Fault (List Line) :=
  ofTexts 1 (Text.lines source.toList)

end Line

end Pseudocode
