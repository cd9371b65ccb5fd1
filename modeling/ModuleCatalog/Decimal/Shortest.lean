import ModuleCatalog.Decimal.Binary64

/-!
The shortest decimal that reads back as a given magnitude, and its text.

The decimals that read back are those in the interval between the midpoints to the neighbouring
magnitudes. For one digit, two digits and so on, the two decimals nearest to the magnitude are
tried; the first grid with a decimal in the interval wins, and on it the nearer decimal.
-/
namespace ModuleCatalog.Decimal

/-- The decimal `digits * 10 ^ exponent`. -/
structure Scaled where
  digits : Nat
  exponent : Int
  deriving DecidableEq, Repr

/-- The number of decimal digits of a number; zero has one. -/
def digitCount (n : Nat) : Nat :=
  (Nat.toDigits 10 n).length

/-- The exponent of the leading decimal digit of the ratio of two positive numbers. -/
def leadingExponent (num den : Nat) : Int :=
  if den ≤ num then (digitCount (num / den) : Int) - 1
  else -(digitCount ((den + num - 1) / num - 1) : Int)

/-- The interval of decimals that read back as a magnitude, with the ends as multiples of
`num / den`, and the magnitude itself as such a multiple. -/
structure Rounding where
  low : Nat
  value : Nat
  high : Nat
  closed : Bool
  num : Nat
  den : Nat
  deriving DecidableEq, Repr

/-- The interval around a magnitude; below a power of two the gap is half as wide. -/
def Rounding.around (x : Binary64) : Rounding :=
  let (num, den) := Binary64.scaled 1 1 (x.exponent - 2)
  let below := if x.mantissa = Nat.pow 2 52 && x.exponent > -1074 then 1 else 2
  ⟨4 * x.mantissa - below, 4 * x.mantissa, 4 * x.mantissa + 2, x.mantissa % 2 == 0, num, den⟩

/-- Says whether `t * b` lies in the interval whose ends are multiples of `s`. -/
def Rounding.holds (r : Rounding) (s b t : Nat) : Bool :=
  if r.closed then r.low * s ≤ t * b && t * b ≤ r.high * s
  else r.low * s < t * b && t * b < r.high * s

/-- The decimal with the given exponent that is nearest to the magnitude and reads back as it. -/
def Rounding.onGrid (r : Rounding) (exponent : Int) : Option Nat :=
  let s := if exponent < 0 then r.num * Nat.pow 10 (-exponent).toNat else r.num
  let b := if exponent < 0 then r.den else r.den * Nat.pow 10 exponent.toNat
  let t := r.value * s / b
  let twice := 2 * (r.value * s % b)
  let lower := r.holds s b t
  let upper := r.holds s b (t + 1)
  if lower && upper then
    some (if twice < b || (twice == b && t % 2 == 0) then t else t + 1)
  else if lower then some t
  else if upper then some (t + 1)
  else none

/-- Tries grids with more and more digits; `left` bounds how many are tried. -/
def Rounding.firstGrid (r : Rounding) : Nat → Int → Scaled
  | 0, exponent => ⟨0, exponent⟩
  | left + 1, exponent =>
    match r.onGrid exponent with
    | some t => ⟨t, exponent⟩
    | none => r.firstGrid left (exponent - 1)

/-- Moves trailing zeros into the exponent; `left` bounds how many are moved. -/
def Scaled.stripZeros : Nat → Scaled → Scaled
  | 0, d => d
  | left + 1, d =>
    if d.digits ≠ 0 && d.digits % 10 == 0 then stripZeros left ⟨d.digits / 10, d.exponent + 1⟩
    else d

/-- The shortest decimal that reads back as a magnitude; seventeen digits always suffice. -/
def shortest (x : Binary64) : Scaled :=
  if x.mantissa = 0 then ⟨0, 0⟩
  else
    let r := Rounding.around x
    (r.firstGrid 18 (leadingExponent (r.value * r.num) r.den)).stripZeros 18

/-- The text of a decimal: with a point when the leading digit stands between the fifth place after
the point and the sixteenth before it, and with a signed exponent otherwise. -/
def Scaled.text (d : Scaled) : String :=
  let ds := Nat.toDigits 10 d.digits
  let lead : Int := d.exponent + ds.length - 1
  if d.digits = 0 then "0.0"
  else if 0 ≤ lead && lead ≤ 15 then
    if 0 ≤ d.exponent then .ofList (ds ++ List.replicate d.exponent.toNat '0' ++ ['.', '0'])
    else .ofList (ds.take (lead.toNat + 1) ++ '.' :: ds.drop (lead.toNat + 1))
  else if -5 ≤ lead && lead < 0 then
    .ofList ('0' :: '.' :: List.replicate (-lead - 1).toNat '0' ++ ds)
  else
    let fraction := ds.drop 1
    let mark := if lead < 0 then ['e', '-'] else ['e', '+']
    .ofList (ds.take 1 ++ (if fraction.isEmpty then [] else '.' :: fraction) ++ mark ++
      Nat.toDigits 10 lead.natAbs)

end ModuleCatalog.Decimal
