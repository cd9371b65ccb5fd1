import ModuleCatalog.Decimal.Binary64
import Mathlib.Algebra.Order.Field.Power
import Mathlib.Algebra.Order.Field.Rat
import Mathlib.Tactic.Ring

/-!
What rounding to double precision keeps of the order. The mantissa of a rounded ratio has 53 bits
unless its exponent is the least one, and the rounding never goes below a double that the ratio
reaches. Nothing is said here on how near the rounded ratio is.
-/
namespace ModuleCatalog.Decimal.Binary64

/-- The rational that a magnitude stands for. -/
def toRat (x : Binary64) : ℚ :=
  x.mantissa * 2 ^ x.exponent

section Scaled

variable {num den : Nat}

theorem scaled_snd_pos (hden : 0 < den) (e : Int) : 0 < (scaled num den e).2 := by
  unfold scaled
  split
  · exact hden
  · exact Nat.mul_pos hden (Nat.pow_pos Nat.two_pos)

theorem scaled_div (num den : Nat) (e : Int) :
    ((scaled num den e).1 : ℚ) / (scaled num den e).2 = num / den * 2 ^ e := by
  unfold scaled
  split
  · next he =>
    obtain ⟨k, rfl⟩ := Int.eq_ofNat_of_zero_le he
    simp only [Int.toNat_natCast, Nat.pow_eq]
    push_cast
    rw [zpow_natCast]
    ring
  · next he =>
    obtain ⟨k, hk⟩ := Int.eq_ofNat_of_zero_le (by omega : 0 ≤ -e)
    obtain rfl : e = -(k : Int) := by omega
    simp only [neg_neg, Int.toNat_natCast, Nat.pow_eq]
    push_cast
    rw [zpow_neg, zpow_natCast, div_mul_eq_div_div, div_eq_mul_inv]

/-- The whole part of a magnitude is the greatest number that it reaches. -/
theorem le_floor_iff {n : Nat} {x : Binary64} : n ≤ x.floor ↔ (n : ℚ) ≤ x.toRat := by
  have hpos : 0 < (scaled x.mantissa 1 x.exponent).2 := scaled_snd_pos Nat.one_pos _
  have hpos' : (0 : ℚ) < (scaled x.mantissa 1 x.exponent).2 := by exact_mod_cast hpos
  have hratio := scaled_div x.mantissa 1 x.exponent
  rw [Nat.cast_one, div_one] at hratio
  rw [toRat, ← hratio, le_div_iff₀ hpos', floor, Nat.le_div_iff_mul_le hpos]
  norm_cast

end Scaled

section Rounding

variable {num den : Nat}

theorem le_roundQuotient {n : Nat} (hden : 0 < den) (h : (n : ℚ) ≤ num / den) :
    n ≤ roundQuotient num den := by
  have hquotient : n ≤ num / den := by
    rw [Nat.le_div_iff_mul_le hden]
    rw [le_div_iff₀ (by exact_mod_cast hden)] at h
    exact_mod_cast h
  have hround : num / den ≤ roundQuotient num den := by
    unfold roundQuotient
    dsimp only
    split
    · exact Nat.le_refl _
    · split <;> omega
  exact hquotient.trans hround

/-- The binary logarithms of two numbers tell their ratio up to a factor of two. -/
theorem two_zpow_log2_sub_lt (hnum : 0 < num) (hden : 0 < den) :
    (2 : ℚ) ^ ((num.log2 : Int) - den.log2 - 1) < num / den := by
  have hnum' : (2 : ℚ) ^ (num.log2 : Int) ≤ num := by
    rw [zpow_natCast]
    exact_mod_cast Nat.log2_self_le hnum.ne'
  have hden' : (den : ℚ) < 2 ^ (den.log2 + 1 : Int) := by
    have hlt : den < 2 ^ (den.log2 + 1) := Nat.lt_log2_self
    exact_mod_cast hlt
  have hpos : (0 : ℚ) < den := by exact_mod_cast hden
  have hpower : (0 : ℚ) < 2 ^ ((num.log2 : Int) - den.log2 - 1) := zpow_pos two_pos _
  rw [lt_div_iff₀ hpos]
  calc (2 : ℚ) ^ ((num.log2 : Int) - den.log2 - 1) * den
      < 2 ^ ((num.log2 : Int) - den.log2 - 1) * 2 ^ (den.log2 + 1 : Int) := by gcongr
    _ = 2 ^ (num.log2 : Int) := by
        rw [← zpow_add₀ two_ne_zero]
        congr 1
        ring
    _ ≤ num := hnum'

/-- At its normal exponent a ratio is not less than the least mantissa of 53 bits. -/
theorem le_div_normalExponent (hnum : 0 < num) (hden : 0 < den) :
    (2 : ℚ) ^ 52 ≤ num / den * 2 ^ (-normalExponent num den) := by
  unfold normalExponent
  dsimp only
  generalize he : (num.log2 : Int) - (den.log2 : Int) - 52 = e
  split
  · -- The exponent goes down by one, which takes back what the logarithms may miss.
    have hlog := two_zpow_log2_sub_lt hnum hden
    have hexponent : (num.log2 : Int) - den.log2 - 1 = 52 + (e - 1) := by omega
    rw [hexponent, zpow_add₀ two_ne_zero] at hlog
    have hpos : (0 : ℚ) < 2 ^ (e - 1) := zpow_pos two_pos _
    rw [zpow_neg, ← div_eq_mul_inv, le_div_iff₀ hpos]
    exact_mod_cast hlog.le
  · next hge =>
    have hpos : (0 : ℚ) < (scaled num den (-e)).2 := by exact_mod_cast scaled_snd_pos hden (-e)
    rw [← scaled_div, le_div_iff₀ hpos]
    exact_mod_cast not_lt.mp hge

/-- A rounded ratio is a rounded quotient at the normal exponent of the ratio, or at the least one.
-/
theorem toRat_of_ofRatio? (hnum : 0 < num) {x : Binary64} (h : ofRatio? num den = some x) :
    let e := max (normalExponent num den) (-1074)
    x.toRat = roundQuotient (scaled num den (-e)).1 (scaled num den (-e)).2 * 2 ^ e := by
  intro e
  rw [ofRatio?, if_neg hnum.ne'] at h
  dsimp only at h
  rw [Option.ite_none_right_eq_some, Option.some.injEq] at h
  rw [← h.2]
  split
  · next hcarry =>
    rw [hcarry, toRat, zpow_add_one₀ two_ne_zero, Nat.pow_eq, Nat.pow_eq]
    push_cast
    ring
  · rfl

/-- A ratio that reaches a double is not rounded below it. -/
theorem toRat_le_of_ofRatio? (hnum : 0 < num) (hden : 0 < den) {x y : Binary64}
    (h : ofRatio? num den = some x) (hmantissa : y.mantissa ≤ 2 ^ 53)
    (hexponent : -1074 ≤ y.exponent) (hle : y.toRat ≤ num / den) : y.toRat ≤ x.toRat := by
  rw [toRat_of_ofRatio? hnum h]
  generalize he : max (normalExponent num den) (-1074) = e
  have hpos : (0 : ℚ) < 2 ^ e := zpow_pos two_pos e
  have hround {n : Nat} (hn : (n : ℚ) ≤ num / den * 2 ^ (-e)) :
      n ≤ roundQuotient (scaled num den (-e)).1 (scaled num den (-e)).2 := by
    apply le_roundQuotient (scaled_snd_pos hden _)
    rwa [scaled_div]
  by_cases hcoarse : e ≤ y.exponent
  · -- The double is a whole number of steps of the rounding.
    obtain ⟨k, hk⟩ := Int.eq_ofNat_of_zero_le (by omega : 0 ≤ y.exponent - e)
    have hy : y.toRat = (y.mantissa * 2 ^ k : Nat) * 2 ^ e := by
      have hsplit : y.exponent = k + e := by omega
      rw [toRat, hsplit, zpow_add₀ two_ne_zero, zpow_natCast]
      push_cast
      ring
    rw [hy]
    gcongr
    apply hround
    rw [zpow_neg, ← div_eq_mul_inv, le_div_iff₀ hpos, ← hy]
    exact hle
  · -- Its exponent is less than that of the rounding, which is then the normal one.
    have hnormal : e = normalExponent num den := by omega
    have hleast : 2 ^ 52 ≤ roundQuotient (scaled num den (-e)).1 (scaled num den (-e)).2 := by
      apply hround
      rw [hnormal]
      exact_mod_cast le_div_normalExponent hnum hden
    calc y.toRat ≤ 2 ^ 53 * 2 ^ (e - 1) := by
          have hfine : y.exponent ≤ e - 1 := by omega
          rw [toRat]
          gcongr
          · exact_mod_cast hmantissa
          · exact one_le_two
      _ = 2 ^ 52 * 2 ^ e := by
          rw [zpow_sub_one₀ two_ne_zero]
          ring
      _ ≤ _ := by
          gcongr
          exact_mod_cast hleast

end Rounding

section Operations

variable {x y z : Binary64} {k : Nat}

theorem two_pow_le_of_ofRatio? {num den : Nat} (hden : 0 < den) (h : ofRatio? num den = some x)
    (hle : (2 : ℚ) ^ k ≤ num / den) : 2 ^ k ≤ x.toRat := by
  have hnum : 0 < num := by
    rw [Nat.pos_iff_ne_zero]
    rintro rfl
    rw [Nat.cast_zero, zero_div] at hle
    exact absurd hle (not_le.mpr (pow_pos two_pos k))
  have hpower : (2 : ℚ) ^ k = toRat ⟨1, k⟩ := by simp [toRat]
  have hexponent : -1074 ≤ (⟨1, k⟩ : Binary64).exponent := by
    dsimp only
    omega
  rw [hpower] at hle ⊢
  exact toRat_le_of_ofRatio? hnum hden h Nat.one_le_two_pow hexponent hle

theorem two_pow_le_of_ofNat? {n : Nat} (h : ofNat? n = some x) (hle : 2 ^ k ≤ n) :
    (2 : ℚ) ^ k ≤ x.toRat := by
  apply two_pow_le_of_ofRatio? Nat.one_pos h
  rw [Nat.cast_one, div_one]
  exact_mod_cast hle

theorem two_pow_le_of_mul? (h : x.mul? y = some z) (hle : (2 : ℚ) ^ k ≤ x.toRat * y.toRat) :
    2 ^ k ≤ z.toRat := by
  have hproduct : ((scaled (x.mantissa * y.mantissa) 1 (x.exponent + y.exponent)).1 : ℚ) /
      (scaled (x.mantissa * y.mantissa) 1 (x.exponent + y.exponent)).2 = x.toRat * y.toRat := by
    rw [scaled_div, zpow_add₀ two_ne_zero, toRat, toRat]
    push_cast
    ring
  rw [← hproduct] at hle
  exact two_pow_le_of_ofRatio? (scaled_snd_pos Nat.one_pos _) h hle

end Operations

end ModuleCatalog.Decimal.Binary64
