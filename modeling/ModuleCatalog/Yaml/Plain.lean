import ModuleCatalog.Yaml.Text

/-!
Texts that a reader takes for something else than a text when they are written plainly: null, truth
values and numbers. A writer has to quote them.
-/
namespace ModuleCatalog.Yaml

def isNull (cs : List Char) : Bool :=
  cs.isEmpty || ["null", "Null", "NULL", "~"].any (·.toList == cs)

def bool? (cs : List Char) : Option Bool :=
  if ["true", "True", "TRUE"].any (·.toList == cs) then some true
  else if ["false", "False", "FALSE"].any (·.toList == cs) then some false
  else none

def dropSign (signs : List Char) : List Char → List Char
  | [] => []
  | c :: cs => if signs.contains c then cs else c :: cs

/-- Says whether a text is a run of digits that is no number because it starts with a zero. -/
def isZeroLed (cs : List Char) : Bool :=
  match dropSign ['-', '+'] cs with
  | '0' :: d :: ds => (d :: ds).all Char.isDigit
  | _ => false

/-- The value of a digit in the bases up to sixteen. -/
def digitValue (c : Char) : Nat :=
  if c.isDigit then c.toNat - 48
  else if 'a' ≤ c && c ≤ 'f' then c.toNat - 87
  else if 'A' ≤ c && c ≤ 'F' then c.toNat - 55
  else 16

/-- The number that digits of a base denote, of which there has to be one at least. -/
def natInBase? (base : Nat) (cs : List Char) : Option Nat :=
  if cs.isEmpty || !cs.all (digitValue · < base) then none
  else some (cs.foldl (fun n c => n * base + digitValue c) 0)

/-- The bases that a text can name, with the letter that names each. -/
def namedBases : List (Char × Nat) :=
  [('x', 16), ('o', 8), ('b', 2)]

def natWithBase? : List Char → Option Nat
  | '0' :: c :: cs =>
    match namedBases.find? (·.1 == c) with
    | some (_, base) => natInBase? base cs
    | none => none
  | _ => none

/-- Says whether a text is an integer of at most 128 bits, with a sign or without. -/
def isInteger (cs : List Char) : Bool :=
  let magnitude? (ds : List Char) : Option Nat :=
    match natWithBase? ds with
    | some n => some n
    | none => if isZeroLed cs then none else natInBase? 10 ds
  match cs with
  | '-' :: ds => (magnitude? ds).any (· ≤ Nat.pow 2 127)
  | '+' :: ds => (magnitude? ds).any (· < Nat.pow 2 128)
  | ds => (magnitude? ds).any (· < Nat.pow 2 128)

/-- The exponent of a decimal number after its letter. -/
def exponent? (cs : List Char) : Option Int :=
  match cs with
  | '-' :: ds => (natInBase? 10 ds).map fun n => -(n : Int)
  | '+' :: ds => (natInBase? 10 ds).map Int.ofNat
  | ds => (natInBase? 10 ds).map Int.ofNat

/-- The digits and the decimal exponent of an unsigned decimal number, with a point or without. -/
def decimal? (cs : List Char) : Option (List Char × Int) :=
  let whole := cs.takeWhile Char.isDigit
  let afterWhole := cs.dropWhile Char.isDigit
  let (fraction, rest) :=
    match afterWhole with
    | '.' :: more => (more.takeWhile Char.isDigit, more.dropWhile Char.isDigit)
    | more => ([], more)
  let ds := whole ++ fraction
  if ds.isEmpty then none
  else
    match rest with
    | [] => some (ds, -(fraction.length : Int))
    | c :: more =>
      if c == 'e' || c == 'E' then (exponent? more).map fun e => (ds, e - fraction.length)
      else none

/-- Says whether a decimal number is below the least number that is rounded to infinity. -/
def isFinite (ds : List Char) (e : Int) : Bool :=
  let ds := ds.dropWhile (· == '0')
  let size : Int := ds.length + e
  if ds.isEmpty || size < 309 then true
  else if 309 < size then false
  else
    let n := ds.foldl (fun n c => n * 10 + digitValue c) 0
    let bound := Nat.pow 2 1024 - Nat.pow 2 970
    if 0 ≤ e then n * Nat.pow 10 e.toNat < bound else n < bound * Nat.pow 10 (-e).toNat

/-- Says whether a text is a number with a fraction or an exponent, or one of the special ones. -/
def isDecimal (cs : List Char) : Bool :=
  let special := [".inf", ".Inf", ".INF", "-.inf", "-.Inf", "-.INF", "+.inf", "+.Inf", "+.INF",
    ".nan", ".NaN", ".NAN"]
  special.any (·.toList == cs) ||
    (decimal? (dropSign ['-', '+'] cs)).any fun (ds, e) => isFinite ds e

/-- Says whether a text written plainly would not be read as a text, or looks as if it were not. -/
def needsQuotes (cs : List Char) : Bool :=
  isNull cs || (bool? cs).isSome || isInteger cs || isZeroLed cs || isDecimal cs

end ModuleCatalog.Yaml
