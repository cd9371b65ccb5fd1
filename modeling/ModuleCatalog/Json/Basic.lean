import ModuleCatalog.Decimal.Binary64

/-!
JSON values. Integers that fit a signed or an unsigned 64-bit word are kept exactly; every other
number is a double with its sign, so that negative zero is told apart.
-/
namespace ModuleCatalog

/-- A number of a JSON text. -/
inductive Json.Number where
  | integer (n : Int)
  | double (negative : Bool) (magnitude : Decimal.Binary64)
  deriving DecidableEq, Repr

/-- A JSON value; the members of an object stand in the order of the text. -/
inductive Json where
  | null
  | bool (b : Bool)
  | number (n : Json.Number)
  | string (s : String)
  | array (items : List Json)
  | object (members : List (String × Json))
  deriving Repr

namespace Json

def member? (members : List (String × Json)) (key : String) : Option Json :=
  (members.reverse.find? (·.1 == key)).map (·.2)

/-- The value under a key of an object; a repeated key has its last value. -/
def get? (key : String) : Json → Option Json
  | object members => member? members key
  | _ => none

def ofInt (n : Int) : Json :=
  .number (.integer n)

def ofNat (n : Nat) : Json :=
  ofInt n

end Json

end ModuleCatalog
