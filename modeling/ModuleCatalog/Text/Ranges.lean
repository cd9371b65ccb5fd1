/-!
Sets of characters given by ranges of code points.
-/
namespace ModuleCatalog.Text

/-- Says whether a character lies in one of the ranges. -/
def inRanges (ranges : List (Nat × Nat)) (c : Char) : Bool :=
  ranges.any fun r => r.1 ≤ c.toNat && c.toNat ≤ r.2

end ModuleCatalog.Text
