import ReleaseLines.Numeral

namespace ReleaseLines

/-- A number of the 64-bit binary format. A finite one is `mantissa * 2 ^ exponent` with a
mantissa below `2 ^ 53` and an exponent of `-1074` or more. -/
inductive Binary64
  | nan
  | infinite (negative : Bool)
  | finite (negative : Bool) (mantissa : Nat) (exponent : Int)
  deriving DecidableEq, Repr

namespace Binary64

/-- The exponent of the smallest numbers. -/
def leastExponent : Int := -1074

/-- The exponent of the largest numbers. -/
def greatestExponent : Int := 971

/-- The least mantissa of 53 bits. -/
def leastFull : Nat := 1 <<< 52

/-- `n * 2 ^ e` as a quotient of naturals. -/
def scaled (n : Nat) (e : Int) : Nat × Nat :=
  (n <<< e.toNat, 1 <<< (-e).toNat)

/-- The nearest natural to a quotient, the even one of two. -/
def roundQuotient (num den : Nat) : Nat :=
  let q := num / den
  let twice := 2 * (num % den)
  if twice < den then q
  else if den < twice then q + 1
  else if q % 2 == 0 then q else q + 1

/-- The exponent at which a positive quotient has a mantissa of 53 bits, or the least one. -/
def exponentOf (num den : Nat) : Int :=
  let e := (num.log2 : Int) - den.log2 - 52
  let (n, d) := scaled num (-e)
  max leastExponent (if n / (den * d) < leastFull then e - 1 else e)

/-- The number nearest to a quotient of naturals. -/
def ofQuotient (negative : Bool) (num den : Nat) : Binary64 :=
  if num == 0 then finite negative 0 leastExponent
  else
    let e := exponentOf num den
    let (n, d) := scaled num (-e)
    let m := roundQuotient n (den * d)
    let (m, e) := if m == 2 * leastFull then (leastFull, e + 1) else (m, e)
    if greatestExponent < e then infinite negative else finite negative m e

/-- The most decimal places between the point and the first digit of a number that is neither
zero nor infinite. -/
def decimalReach : Int := 400

/-- The number nearest to `n * 10 ^ e`. -/
def ofDecimal (negative : Bool) (n : Nat) (e : Int) : Binary64 :=
  let place := (n.log2 : Int) * 30103 / 100000 + e
  if n == 0 then finite negative 0 leastExponent
  else if decimalReach < place then infinite negative
  else if place < -decimalReach then finite negative 0 leastExponent
  else ofQuotient negative (n * Numeral.powerOfTen e.toNat) (Numeral.powerOfTen (-e).toNat)

/-- Whether the number is zero, of either sign. -/
def isZero : Binary64 → Bool
  | finite _ m _ => m == 0
  | _ => false

/-- Whether the number is zero or less. This is false of what is not a number. -/
def isAtMostZero : Binary64 → Bool
  | nan => false
  | infinite negative => negative
  | finite negative m _ => negative || m == 0

end Binary64

end ReleaseLines
