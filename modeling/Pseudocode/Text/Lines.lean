/-!
The lines of a text. Cutting a list after each separator loses nothing: the pieces join to the
list, and only the last one may lack its separator.
-/

namespace Pseudocode.Text

/-- Cuts a list after each `separator`; no piece is empty. -/
def cutAfter {α : Type} [BEq α] (separator : α) : List α → List (List α)
  | [] => []
  | a :: rest =>
    if a == separator then [a] :: cutAfter separator rest
    else
      match cutAfter separator rest with
      | [] => [[a]]
      | piece :: pieces => (a :: piece) :: pieces

/-- The list without `a` at its end, if it ends so. -/
def dropLastIf {α : Type} [BEq α] (a : α) (as : List α) : List α :=
  if as.getLast? == some a then as.dropLast else as

/-- A line ends at a line feed; a carriage return right before it belongs to the ending. -/
def lineOfPiece (piece : List Char) : List Char :=
  if piece.getLast? == some '\n' then dropLastIf '\r' piece.dropLast else piece

def lines (cs : List Char) : List (List Char) :=
  (cutAfter '\n' cs).map lineOfPiece

@[simp] theorem flatten_cutAfter {α : Type} [BEq α] (separator : α) (as : List α) :
    (cutAfter separator as).flatten = as := by
  induction as with
  | nil => rfl
  | cons a rest ih =>
    rw [cutAfter]
    split
    · simp [ih]
    · split <;> simp_all

end Pseudocode.Text
