import ModuleCatalog.Json.Basic
import ModuleCatalog.Decimal.Shortest

/-!
The value of a number literal and the text of a number.

An integer literal that fits a word is that integer. Any other literal is evaluated in double
precision: the leading digits that fit an unsigned 64-bit word are converted, and the result is
multiplied or divided by a power of ten, each step rounding once.
-/
namespace ModuleCatalog.Json

/-- The parts of a number literal; the digits of each part are given as numbers below ten. -/
structure Literal where
  negative : Bool
  whole : List Nat
  fraction : List Nat
  exponent : Option (Bool × List Nat)
  deriving DecidableEq, Repr

def wordMax : Nat := Nat.pow 2 64 - 1

/-- Appends digits to a number as long as the result fits an unsigned 64-bit word, and gives the
digits that are left over from the first that does not fit. -/
def takeDigits (n : Nat) : List Nat → Nat × List Nat
  | [] => (n, [])
  | d :: ds => if n * 10 + d ≤ wordMax then takeDigits (n * 10 + d) ds else (n, d :: ds)

/-- The power of ten as a magnitude; defined for the exponents up to 308. -/
def powerOfTen? (k : Nat) : Option Decimal.Binary64 :=
  if k ≤ 308 then Decimal.Binary64.ofNat? (Nat.pow 10 k) else none

/-- Multiplies a magnitude by a power of ten in double precision. A magnitude is at most divided by
`10 ^ 308` three times before it is zero, which `steps` allows for; an overflow is refused. -/
def scaleByTen : Nat → Decimal.Binary64 → Int → Option Decimal.Binary64
  | 0, _, _ => none
  | steps + 1, x, e =>
    match powerOfTen? e.natAbs with
    | some p => if 0 ≤ e then x.mul? p else x.div? p
    | none =>
      if x.mantissa = 0 then some x
      else if 0 ≤ e then none
      else
        match powerOfTen? 308 with
        | some p =>
          match x.div? p with
          | some y => scaleByTen steps y (e + 308)
          | none => none
        | none => none

/-- The double of a significand and a decimal exponent. -/
def doubleOf? (negative : Bool) (significand : Nat) (e : Int) : Option Number :=
  match Decimal.Binary64.ofNat? significand with
  | some x => (scaleByTen 6 x e).map (.double negative)
  | none => none

def ofDigits (ds : List Nat) : Nat :=
  ds.foldl (fun n d => n * 10 + d) 0

def exponentMax : Nat := Nat.pow 2 31 - 1

/-- The value of a literal with a fraction or an exponent, given the significand and the decimal
exponent of its digits. -/
def withExponent? (negative : Bool) (significand : Nat) (e : Int) :
    Option (Bool × List Nat) → Option Number
  | none => doubleOf? negative significand e
  | some (down, ds) =>
    if exponentMax < ofDigits ds then
      if significand ≠ 0 && !down then none else some (.double negative ⟨0, -1074⟩)
    else
      doubleOf? negative significand (if down then e - ofDigits ds else e + ofDigits ds)

/-- The value of a literal; a literal beyond every double is refused. -/
def Literal.value? (l : Literal) : Option Number :=
  let (significand, rest) := takeDigits 0 l.whole
  if l.fraction.isEmpty && l.exponent.isNone then
    if !rest.isEmpty then doubleOf? l.negative significand rest.length
    else if !l.negative then some (.integer significand)
    else if significand = 0 || Nat.pow 2 63 < significand then
      (Decimal.Binary64.ofNat? significand).map (.double true)
    else some (.integer (-significand))
  else
    let (all, ignored) := takeDigits significand l.fraction
    let e : Int := (rest.length : Int) - ((l.fraction.length - ignored.length : Nat) : Int)
    withExponent? l.negative all e l.exponent

def Number.text : Number → String
  | .integer n => toString n
  | .double negative x => (if negative then "-" else "") ++ (Decimal.shortest x).text

def int64Min : Int := -(Int.pow 2 63)

def int64Max : Int := Int.pow 2 63 - 1

/-- The nearest integer in the signed 64-bit range. -/
def clampInt64 (n : Int) : Int :=
  max int64Min (min int64Max n)

/-- The number as a signed 64-bit integer: a double loses its fraction, and what is out of range
goes to the nearer end. -/
def Number.toInt64 : Number → Int
  | .integer n =>
    if n ≤ int64Max then n
    else
      match Decimal.Binary64.ofNat? n.toNat with
      | some x => clampInt64 x.floor
      | none => int64Max
  | .double negative x => clampInt64 (if negative then -(x.floor : Int) else x.floor)

end ModuleCatalog.Json
