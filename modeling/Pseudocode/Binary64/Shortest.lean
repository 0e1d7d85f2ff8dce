import Pseudocode.Binary64.Basic

/-!
The shortest decimal that reads back as a given number: of the decimal grids with a point among
the reals that round to the number, the coarsest, and on it the point nearest to the number, the
upper one of two equally near.
-/

namespace Pseudocode.Binary64

/-- The reals that round to a number, and the number itself, in units of `1 / unit`. The ends
belong to it if `closed`. -/
structure Span where
  low : Nat
  value : Nat
  high : Nat
  unit : Nat
  closed : Bool

/-- The span of `m · 2 ^ e`. Below a power of two the numbers lie twice as dense. -/
def span (m : Nat) (e : Int) : Span :=
  let up := Nat.pow 2 (e - 2).toNat
  let below := if 2 * m == significandLimit && minExponent < e then 1 else 2
  ⟨(4 * m - below) * up, 4 * m * up, (4 * m + 2) * up, Nat.pow 2 (2 - e).toNat, m % 2 == 0⟩

/-- The point of the grid of multiples of `10 ^ k` that stands for the number, if any. -/
def Span.onGrid? (s : Span) (k : Int) : Option Nat :=
  let finer := Nat.pow 10 (-k).toNat
  let step := s.unit * Nat.pow 10 k.toNat
  let point := s.value * finer / step
  let left := s.value * finer % step
  let down := s.low * finer < point * step || (s.closed && s.low * finer == point * step)
  let up := (point + 1) * step < s.high * finer || (s.closed && (point + 1) * step == s.high * finer)
  if down && (2 * left < step || !up) then some point
  else if up then some (point + 1)
  else none

/-- The first of the grids `10 ^ k`, `10 ^ (k - 1)`, … that has a point for the number. -/
def Span.search (s : Span) : Nat → Int → Nat × Int
  | 0, k => (0, k)
  | fuel + 1, k =>
    match s.onGrid? k with
    | some point => (point, k)
    | none => s.search fuel (k - 1)

/-- The digits and the power of ten of the shortest decimal for `m · 2 ^ e`, for positive `m`. The
search starts above the number, and ends at the latest where every number is on the grid. -/
def shortest (m : Nat) (e : Int) : Nat × Int :=
  let top := max 0 (m.log2 + 1 + e)
  (span m e).search (top - minExponent + 1).toNat top

end Pseudocode.Binary64
