import Pseudocode.Binary64.Basic

/-!
The 64-bit word of a number: a sign bit, eleven bits of exponent and the lower 52 bits of the
significand. All words of `nan` are read as the one `nan`, and it has one word.
-/

namespace Pseudocode.Binary64

/-- The weight of the lowest exponent bit. -/
def exponentUnit : Nat := 4503599627370496

/-- The weight of the sign bit. -/
def signUnit : Nat := 9223372036854775808

/-- The exponent field of the infinities and of `nan`. -/
def specialExponent : Nat := 2047

def ofBits (word : Nat) : Binary64 :=
  let negative := word / signUnit % 2 == 1
  let exponent := word / exponentUnit % 2048
  let fraction := word % exponentUnit
  if exponent == specialExponent then if fraction == 0 then infinite negative else nan
  else if exponent == 0 then finite negative fraction minExponent
  else finite negative (exponentUnit + fraction) (minExponent + (exponent - 1 : Nat))

def signBits (negative : Bool) : Nat := if negative then signUnit else 0

def toBits : Binary64 → Nat
  | nan => specialExponent * exponentUnit + exponentUnit / 2
  | infinite s => signBits s + specialExponent * exponentUnit
  | finite s m e =>
    if m < exponentUnit then signBits s + m
    else signBits s + (e - minExponent).toNat * exponentUnit + m

end Pseudocode.Binary64
