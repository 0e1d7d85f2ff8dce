import Pseudocode.Binary64.Basic

/-!
Arithmetic and comparison. Finite operands give the exact result, rounded once; the other cases
follow from the signs. An operation on `nan` is `nan`, and `nan` compares with nothing.
-/

namespace Pseudocode.Binary64

protected def neg : Binary64 → Binary64
  | nan => nan
  | infinite s => infinite (!s)
  | finite s m e => finite (!s) m e

instance : Neg Binary64 := ⟨Binary64.neg⟩

protected def add : Binary64 → Binary64 → Binary64
  | nan, _ | _, nan => nan
  | infinite s, infinite t => if s == t then infinite s else nan
  | infinite s, finite .. | finite .., infinite s => infinite s
  | finite s m e, finite t n f => ofRat (s && t) (scaled s m e + scaled t n f)

instance : Add Binary64 := ⟨Binary64.add⟩

instance : Sub Binary64 := ⟨fun x y => x + -y⟩

protected def mul : Binary64 → Binary64 → Binary64
  | nan, _ | _, nan => nan
  | infinite s, infinite t => infinite (s != t)
  | infinite s, finite t m _ | finite s m _, infinite t =>
    if m == 0 then nan else infinite (s != t)
  | finite s m e, finite t n f => ofRat (s != t) (scaled s m e * scaled t n f)

instance : Mul Binary64 := ⟨Binary64.mul⟩

protected def div : Binary64 → Binary64 → Binary64
  | nan, _ | _, nan | infinite _, infinite _ => nan
  | infinite s, finite t _ _ => infinite (s != t)
  | finite s _ _, infinite t => zero (s != t)
  | finite s m e, finite t n f =>
    if n == 0 then if m == 0 then nan else infinite (s != t)
    else ofRat (s != t) (scaled s m e / scaled t n f)

instance : Div Binary64 := ⟨Binary64.div⟩

/-- The quotient without its fraction. -/
def truncatedQuotient (a b : Rat) : Int :=
  (a / b).num.tdiv (a / b).den

/-- What is left of `x` after taking `y` away as often as it fits, with the sign of `x`. -/
protected def mod : Binary64 → Binary64 → Binary64
  | nan, _ | _, nan | infinite _, _ => nan
  | x@(finite ..), infinite _ => x
  | finite s m e, finite t n f =>
    let a := scaled s m e
    let b := scaled t n f
    if n == 0 then nan else ofRat s (a - truncatedQuotient a b * b)

instance : Mod Binary64 := ⟨Binary64.mod⟩

/-- The greatest integer that is not above. -/
def floor : Binary64 → Binary64
  | finite s m e => ofRat s (scaled s m e).floor
  | x => x

/-- How two numbers compare; `nan` with nothing, and the two zeros as equal. -/
def compare? : Binary64 → Binary64 → Option Ordering
  | nan, _ | _, nan => none
  | infinite s, infinite t =>
    some (if s == t then .eq else if s then .lt else .gt)
  | infinite s, finite .. => some (if s then .lt else .gt)
  | finite .., infinite t => some (if t then .gt else .lt)
  | finite s m e, finite t n f =>
    let a := scaled s m e
    let b := scaled t n f
    some (if a < b then .lt else if b < a then .gt else .eq)

def eq (x y : Binary64) : Bool := compare? x y == some .eq

def lt (x y : Binary64) : Bool := compare? x y == some .lt

def le (x y : Binary64) : Bool := lt x y || eq x y

def isZero (x : Binary64) : Bool := eq x (zero false)

end Pseudocode.Binary64
