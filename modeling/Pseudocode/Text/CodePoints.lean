/-!
Sets of characters and maps on characters, written as short tables over code points.
-/

namespace Pseudocode.Text

/-- A set of characters: first and last code point of each of its ranges. -/
abbrev Ranges := List (Nat × Nat)

def Ranges.has (ranges : Ranges) (c : Char) : Bool :=
  ranges.any fun (first, last) => first ≤ c.toNat && c.toNat ≤ last

/-- A set of characters: first code point, last code point and step of each of its runs. -/
abbrev Strides := List (Nat × Nat × Nat)

/-- Whether a code point is one of `first`, `first + step`, …, `last`. -/
def onStride (first last step n : Nat) : Bool :=
  first ≤ n && n ≤ last && (n - first) % step == 0

def Strides.has (strides : Strides) (c : Char) : Bool :=
  strides.any fun (first, last, step) => onStride first last step c.toNat

/-- A map on characters: the runs as in `Strides`, and how far each is moved. -/
abbrev Shifts := List (Nat × Nat × Nat × Int)

def Shifts.apply (shifts : Shifts) (c : Char) : Char :=
  match shifts.find? fun (first, last, step, _) => onStride first last step c.toNat with
  | some (_, _, _, distance) => Char.ofNat (c.toNat + distance).toNat
  | none => c

/-- A map from characters to texts. -/
abbrev Expansions := List (Nat × List Nat)

/-- The text for `c` if there is one, and else the character that `c` is moved to. -/
def caseMap (expansions : Expansions) (shifts : Shifts) (c : Char) : List Char :=
  match expansions.lookup c.toNat with
  | some codes => codes.map Char.ofNat
  | none => [shifts.apply c]

end Pseudocode.Text
