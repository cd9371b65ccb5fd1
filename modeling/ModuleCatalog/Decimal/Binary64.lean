/-!
Finite double-precision magnitudes in exact integer arithmetic: a magnitude is a mantissa times a
power of two, and every operation rounds the exact result once, to nearest with ties to even.
-/
namespace ModuleCatalog.Decimal

/-- The magnitude `mantissa * 2 ^ exponent`; in the results of the operations below the mantissa
has 53 bits unless the exponent is the least one, -1074. -/
structure Binary64 where
  mantissa : Nat
  exponent : Int
  deriving DecidableEq, Repr

namespace Binary64

/-- The quotient rounded to the nearest integer, a tie to the even neighbour. -/
def roundQuotient (num den : Nat) : Nat :=
  let q := num / den
  let twice := 2 * (num % den)
  if twice < den then q else if den < twice then q + 1 else q + q % 2

def scaled (num den : Nat) (e : Int) : Nat × Nat :=
  if 0 ≤ e then (num * Nat.pow 2 e.toNat, den) else (num, den * Nat.pow 2 (-e).toNat)

/-- The exponent with which the ratio has a mantissa of 53 bits. -/
def normalExponent (num den : Nat) : Int :=
  let e : Int := (num.log2 : Int) - (den.log2 : Int) - 52
  let (a, b) := scaled num den (-e)
  if a < Nat.pow 2 52 * b then e - 1 else e

/-- The magnitude nearest to a ratio with a positive denominator, unless it exceeds every finite
magnitude. -/
def ofRatio? (num den : Nat) : Option Binary64 :=
  if num = 0 then some ⟨0, -1074⟩
  else
    let e := max (normalExponent num den) (-1074)
    let (a, b) := scaled num den (-e)
    let m := roundQuotient a b
    let r : Binary64 := if m = Nat.pow 2 53 then ⟨Nat.pow 2 52, e + 1⟩ else ⟨m, e⟩
    if r.exponent ≤ 971 then some r else none

def ofNat? (n : Nat) : Option Binary64 :=
  ofRatio? n 1

/-- The product, unless it exceeds every finite magnitude. -/
def mul? (x y : Binary64) : Option Binary64 :=
  let (a, b) := scaled (x.mantissa * y.mantissa) 1 (x.exponent + y.exponent)
  ofRatio? a b

def div? (x y : Binary64) : Option Binary64 :=
  let (a, b) := scaled x.mantissa y.mantissa (x.exponent - y.exponent)
  ofRatio? a b

/-- The greatest integer that is at most the magnitude. -/
def floor (x : Binary64) : Nat :=
  let (a, b) := scaled x.mantissa 1 x.exponent
  a / b

end Binary64

end ModuleCatalog.Decimal
