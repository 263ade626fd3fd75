import ReleaseLines.Binary64.Basic
import ReleaseLines.Numeral

namespace ReleaseLines.Binary64

/-- The decimals that read back as one positive number: with `2 ^ (exponent - 2)` as unit, from
`low` to `high` around `value`, the ends included where `closed` says so. -/
structure Neighbourhood where
  low : Nat
  value : Nat
  high : Nat
  unit : Int
  closed : Bool

/-- Below a power of two the next number is only half as far away. -/
def neighbourhood (m : Nat) (e : Int) : Neighbourhood :=
  let below := if m == leastFull && leastExponent < e then 1 else 2
  ⟨4 * m - below, 4 * m, 4 * m + 2, e - 2, m % 2 == 0⟩

/-- The nearest multiple of `10 ^ k` in a neighbourhood, divided by `10 ^ k`. -/
def Neighbourhood.multipleOf? (near : Neighbourhood) (k : Int) : Option Nat :=
  let num := Numeral.powerOfTen (-k).toNat <<< near.unit.toNat
  let den := Numeral.powerOfTen k.toNat <<< (-near.unit).toNat
  let holds (c : Nat) : Bool :=
    if near.closed then near.low * num ≤ c * den && c * den ≤ near.high * num
    else near.low * num < c * den && c * den < near.high * num
  let c := near.value * num / den
  let nearest := roundQuotient (near.value * num) den
  let other := if nearest == c then c + 1 else c
  if holds nearest then some nearest
  else if holds other then some other
  else none

/-- The digits `c` and the place `k` of the decimal `c * 10 ^ k` with the fewest digits that reads
back as `m * 2 ^ e`: the first place with a hit when the places are tried from above. -/
def shortest (m : Nat) (e : Int) : Nat × Int :=
  let top := ((m.log2 : Int) + e + 1) * 30103 / 100000 + 1
  let places := (List.range 25).map fun (step : Nat) => top - step
  (places.findSome? fun k => ((neighbourhood m e).multipleOf? k).map (·, k)).getD (0, 0)

/-- A decimal exponent with a sign and at least two digits. -/
def exponentText (e : Int) : String :=
  let shown := Numeral.natText e.natAbs
  (if e < 0 then "e-" else "e+") ++ (if shown.length < 2 then "0" ++ shown else shown)

/-- Places digits around a point that comes after `point` of them. Points far from the digits are
written as an exponent. -/
def pointedText (ds : List Char) (point : Int) : String :=
  if point ≤ -4 || 16 < point then
    let tail := ds.drop 1
    String.ofList (ds.take 1) ++ (if tail.isEmpty then "" else "." ++ String.ofList tail) ++
      exponentText (point - 1)
  else if point ≤ 0 then
    "0." ++ String.ofList (List.replicate (-point).toNat '0' ++ ds)
  else if (ds.length : Int) ≤ point then
    String.ofList (ds ++ List.replicate (point.toNat - ds.length) '0') ++ ".0"
  else String.ofList (ds.take point.toNat) ++ "." ++ String.ofList (ds.drop point.toNat)

/-- The fewest digits that read back, with a point always shown. -/
def text : Binary64 → String
  | nan => "nan"
  | infinite negative => if negative then "-inf" else "inf"
  | finite negative m e =>
    let sign := if negative then "-" else ""
    if m == 0 then sign ++ "0.0"
    else
      let (c, k) := shortest m e
      let ds := Numeral.digits c
      sign ++ pointedText ds (ds.length + k)

end ReleaseLines.Binary64
