import Pseudocode.Binary64.Basic

/-!
Decimal numerals: an optional sign, then `inf`, `infinity` or `nan` in any letter case, or digits
with at most one point and an optional exponent. The numeral is read as the number nearest to its
exact value.
-/

namespace Pseudocode.Decimal

/-- The number that a list of decimal digits writes. -/
def value (digits : List Char) : Nat :=
  digits.foldl (fun n d => 10 * n + (d.toNat - '0'.toNat)) 0

/-- `± digits · 10 ^ scale`, rounded. Magnitudes that no finite number is near to are settled
without the power. -/
def toBinary64 (negative : Bool) (digits : Nat) (scale : Int) : Binary64 :=
  let length := (Nat.toDigits 10 digits).length
  if digits == 0 || length + scale < -330 then .zero negative
  else if 330 < length + scale then .infinite negative
  else .ofQuotient negative (digits * Nat.pow 10 scale.toNat) (Nat.pow 10 (-scale).toNat)

/-- Splits off a sign; the flag is set for a minus. -/
def splitSign : List Char → Bool × List Char
  | '-' :: rest => (true, rest)
  | '+' :: rest => (false, rest)
  | cs => (false, cs)

/-- Exponents stop growing here: the number is zero or infinite long before. -/
def exponentLimit : Nat := 65536

def exponentValue (digits : List Char) : Nat :=
  digits.foldl
    (fun n d => if n < exponentLimit then 10 * n + (d.toNat - '0'.toNat) else n) 0

/-- An `e` with an exponent, or nothing. -/
def readExponent : List Char → Option Int
  | [] => some 0
  | mark :: rest =>
    let (negative, digits) := splitSign rest
    if (mark == 'e' || mark == 'E') && !digits.isEmpty && digits.all Char.isDigit then
      some (if negative then -exponentValue digits else exponentValue digits)
    else none

/-- Digits with at most one point, and the exponent after them. -/
def readDigits (negative : Bool) (cs : List Char) : Option Binary64 :=
  let whole := cs.takeWhile Char.isDigit
  let rest := cs.dropWhile Char.isDigit
  let (fraction, rest) := match rest with
    | '.' :: rest => (rest.takeWhile Char.isDigit, rest.dropWhile Char.isDigit)
    | rest => ([], rest)
  if whole.isEmpty && fraction.isEmpty then none
  else (readExponent rest).map fun exponent =>
    toBinary64 negative (value (whole ++ fraction)) (exponent - fraction.length)

def readWord (negative : Bool) (cs : List Char) : Option Binary64 :=
  match String.ofList (cs.map Char.toLower) with
  | "inf" | "infinity" => some (.infinite negative)
  | "nan" => some .nan
  | _ => none

def read (cs : List Char) : Option Binary64 :=
  let (negative, body) := splitSign cs
  readDigits negative body <|> readWord negative body

end Pseudocode.Decimal
