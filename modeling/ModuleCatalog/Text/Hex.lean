/-!
Hexadecimal digits. The small ones are written by `Nat.digitChar`.
-/
namespace ModuleCatalog.Text

/-- The capital hexadecimal digit of a number below sixteen. -/
def capitalHexDigit (d : Nat) : Char :=
  (Nat.digitChar d).toUpper

/-- The number that a hexadecimal digit stands for, small or capital. -/
def hexValue? (c : Char) : Option Nat :=
  if '0' ≤ c && c ≤ '9' then some (c.toNat - 48)
  else if 'a' ≤ c && c ≤ 'f' then some (c.toNat - 87)
  else if 'A' ≤ c && c ≤ 'F' then some (c.toNat - 55)
  else none

theorem hexValue?_capitalHexDigit : ∀ d < 16, hexValue? (capitalHexDigit d) = some d := by
  decide

end ModuleCatalog.Text
