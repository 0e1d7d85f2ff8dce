import Pseudocode.Binary64.Shortest

/-!
Numerals for numbers. Both forms write the shortest decimal that reads back as the number, either
with all places of the power of ten or with an exponent.
-/

namespace Pseudocode.Binary64

def signText (negative : Bool) : String := if negative then "-" else ""

/-- `digits · 10 ^ k` with all its places and at least `places` digits after the point. -/
def positionalText (digits : Nat) (k : Int) (places : Nat) : String :=
  let shown := Nat.toDigits 10 digits ++ List.replicate k.toNat '0'
  let depth := (-k).toNat
  let padded := List.replicate (depth + 1 - shown.length) '0' ++ shown
  let whole := padded.take (padded.length - depth)
  let fraction := padded.drop (padded.length - depth)
  let fraction := fraction ++ List.replicate (places - fraction.length) '0'
  String.ofList (if fraction.isEmpty then whole else whole ++ '.' :: fraction)

/-- `digits · 10 ^ k` with one digit before the point, and the exponent. -/
def exponentialText (digits : Nat) (k : Int) : String :=
  match Nat.toDigits 10 digits with
  | [] => ""
  | first :: rest =>
    let exponent := k + rest.length
    let fraction := if rest.isEmpty then [] else '.' :: rest
    String.ofList (first :: fraction) ++ "e" ++ toString exponent

/-- The numeral with all places; a finite number has at least `places` digits after the point. -/
def positional (places : Nat) : Binary64 → String
  | nan => "NaN"
  | infinite s => signText s ++ "inf"
  | finite s m e =>
    let (digits, k) := if m == 0 then (0, 0) else shortest m e
    signText s ++ positionalText digits k places

/-- The numeral of a number as it is named in a message: with an exponent from `10 ^ 16` on and
below `10 ^ -4`, and else with at least one digit after the point. -/
def literal : Binary64 → String
  | finite s m e =>
    let magnitude := scaled false m e
    if m != 0 && ((10000000000000000 : Rat) ≤ magnitude || magnitude < mkRat 1 10000) then
      let (digits, k) := shortest m e
      signText s ++ exponentialText digits k
    else positional 1 (finite s m e)
  | x => positional 1 x

end Pseudocode.Binary64
