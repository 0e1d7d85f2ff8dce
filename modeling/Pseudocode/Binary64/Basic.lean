/-!
Binary floating-point numbers with significands of 53 bits. A finite number stands for an exact
rational; `ofRat` goes back, to the nearest number, a half to the neighbour with the even
significand. Arithmetic is exact arithmetic followed by `ofRat`.
-/

namespace Pseudocode

/-- A finite number is `± significand · 2 ^ exponent`. -/
inductive Binary64 where
  | nan
  | infinite (negative : Bool)
  | finite (negative : Bool) (significand : Nat) (exponent : Int)
  deriving DecidableEq, Repr

namespace Binary64

/-- The exponent of the smallest numbers, and of zero. -/
def minExponent : Int := -1074

/-- The exponent of the largest numbers. -/
def maxExponent : Int := 971

/-- One more than the largest significand. -/
def significandLimit : Nat := 9007199254740992

/-- The significand has all 53 bits, or the exponent is the least one. Every finite number has
exactly one form of this kind. -/
def IsNormal : Binary64 → Prop
  | finite _ m e =>
    m < significandLimit ∧ minExponent ≤ e ∧ e ≤ maxExponent ∧
      (significandLimit ≤ 2 * m ∨ e = minExponent)
  | _ => True

def zero (negative : Bool) : Binary64 := finite negative 0 minExponent

/-- `± n · 2 ^ e` as a rational. -/
def scaled (negative : Bool) (n : Nat) (e : Int) : Rat :=
  let magnitude := mkRat (n * Nat.pow 2 e.toNat) (Nat.pow 2 (-e).toNat)
  if negative then -magnitude else magnitude

/-- The rational that a finite number stands for. -/
def toRat? : Binary64 → Option Rat
  | finite negative m e => some (scaled negative m e)
  | _ => none

/-- The integer nearest to `n / d`, a half to the even one. -/
def nearest (n d : Nat) : Nat :=
  let q := n / d
  let r := n % d
  if d < 2 * r || (d == 2 * r && q % 2 == 1) then q + 1 else q

/-- The greatest `k` with `2 ^ k ≤ n / d`, for positive `n` and `d`. -/
def log2Quotient (n d : Nat) : Int :=
  let k := (n.log2 : Int) - d.log2
  if d * Nat.pow 2 k.toNat ≤ n * Nat.pow 2 (-k).toNat then k else k - 1

/-- The number nearest to `± n / d`. -/
def ofQuotient (negative : Bool) (n d : Nat) : Binary64 :=
  if n == 0 then zero negative
  else
    let e := max (log2Quotient n d - 52) minExponent
    let m := nearest (n * Nat.pow 2 (-e).toNat) (d * Nat.pow 2 e.toNat)
    let (m, e) := if m == significandLimit then (m / 2, e + 1) else (m, e)
    if maxExponent < e then infinite negative else finite negative m e

/-- The number nearest to a rational; zero takes the sign given. -/
def ofRat (negativeZero : Bool) (q : Rat) : Binary64 :=
  if q.num == 0 then zero negativeZero else ofQuotient (q.num < 0) q.num.natAbs q.den

def ofInt (i : Int) : Binary64 :=
  ofRat false i

/-- The integer that a number is, if it is one. -/
def toInt? (x : Binary64) : Option Int :=
  match x.toRat? with
  | some q => if q.den == 1 then some q.num else none
  | none => none

def isFinite : Binary64 → Bool
  | finite .. => true
  | _ => false

def isNegative : Binary64 → Bool
  | finite negative _ _ | infinite negative => negative
  | nan => false

@[simp] theorem toRat?_nan : toRat? nan = none := rfl

@[simp] theorem toRat?_infinite (negative : Bool) : toRat? (infinite negative) = none := rfl

@[simp] theorem toRat?_finite (negative : Bool) (m : Nat) (e : Int) :
    toRat? (finite negative m e) = some (scaled negative m e) := rfl

theorem isFinite_iff {x : Binary64} : x.isFinite = true ↔ ∃ q, x.toRat? = some q := by
  cases x <;> simp [isFinite]

end Binary64

end Pseudocode
