import ModuleCatalog.Json.Reader
import ModuleCatalog.Proofs.RoundedRatios
import Mathlib.Data.Nat.Digits.Defs
import Mathlib.Data.List.TakeWhile

/-!
The integer literals of a JSON text and the numbers that they are read as. A literal that fits no
word is read as a double, in several steps that each round, but no step rounds below a power of two.
So a literal beyond the signed 64-bit range goes to the end of that range, whichever way it takes.
-/
namespace ModuleCatalog

namespace Decimal

/-- The number that decimal digits denote, the first of them being the most significant. -/
def numberOf (ds : List Char) : Nat :=
  Nat.ofDigits 10 (ds.reverse.map fun c => c.toNat - '0'.toNat)

def IsDigits (ds : List Char) : Prop :=
  ds ≠ [] ∧ ∀ c ∈ ds, c.isDigit = true

theorem isDigits_iff {ds : List Char} : IsDigits ds ↔ (!ds.isEmpty && ds.all Char.isDigit) = true := by
  simp [IsDigits]

instance (ds : List Char) : Decidable (IsDigits ds) :=
  decidable_of_iff _ isDigits_iff.symm

/-- Says that a text is an optional sign and one or more ASCII digits, and which integer it denotes.
-/
inductive Spells : List Char → Int → Prop
  | unsigned {ds : List Char} (h : IsDigits ds) : Spells ds (numberOf ds)
  | positive {ds : List Char} (h : IsDigits ds) : Spells ('+' :: ds) (numberOf ds)
  | negative {ds : List Char} (h : IsDigits ds) : Spells ('-' :: ds) (-numberOf ds)

end Decimal

open Decimal

namespace Json

theorem ofDigits_eq_numberOf (ds : List Char) : ofDigits (ds.map (·.toNat - 48)) = numberOf ds := by
  have hstep : (fun n d : Nat => n * 10 + d) = fun n d => d + 10 * n := by
    funext n d
    omega
  rw [numberOf, Nat.ofDigits_eq_foldr, List.map_reverse, List.foldr_reverse, ofDigits, hstep]
  rfl

section Digits

variable {n : Nat} {ds : List Nat}

theorem le_foldl_digits (n : Nat) (ds : List Nat) : n ≤ ds.foldl (fun n d => n * 10 + d) n := by
  induction ds generalizing n with
  | nil => exact Nat.le_refl n
  | cons d ds ih =>
    have hstep : n ≤ n * 10 + d := by omega
    exact hstep.trans (ih (n * 10 + d))

/-- Digits are all taken if what they add up to fits a word. -/
theorem takeDigits_of_le (h : ds.foldl (fun n d => n * 10 + d) n ≤ wordMax) :
    takeDigits n ds = (ds.foldl (fun n d => n * 10 + d) n, []) := by
  induction ds generalizing n with
  | nil => rfl
  | cons d ds ih =>
    have hfits : n * 10 + d ≤ wordMax := (le_foldl_digits (n * 10 + d) ds).trans h
    rw [takeDigits, if_pos hfits]
    exact ih h

/-- If not all digits are taken, one more digit would have made what was taken too great for a word.
-/
theorem takeDigits_of_lt (hn : n ≤ wordMax) (hds : ∀ d ∈ ds, d < 10)
    (h : wordMax < ds.foldl (fun n d => n * 10 + d) n) :
    ∃ taken d rest, takeDigits n ds = (taken, d :: rest) ∧ wordMax < taken * 10 + 10 := by
  induction ds generalizing n with
  | nil => exact absurd hn (Nat.not_le.mpr h)
  | cons d ds ih =>
    obtain ⟨hd, hds⟩ := List.forall_mem_cons.mp hds
    by_cases hfits : n * 10 + d ≤ wordMax
    · rw [takeDigits, if_pos hfits]
      exact ih hfits hds h
    · refine ⟨n, d, ds, by rw [takeDigits, if_neg hfits], ?_⟩
      omega

end Digits

section Doubles

variable {x y : Binary64} {negative : Bool} {k : Nat} {number : Number}

/-- A double that is not zero goes up by a power of ten in one multiplication, or not at all. -/
theorem mul?_of_scaleByTen {steps e : Nat} (hx : x.mantissa ≠ 0)
    (h : scaleByTen steps x e = some y) : ∃ p, powerOfTen? e = some p ∧ x.mul? p = some y := by
  cases steps with
  | zero => cases h
  | succ steps =>
    -- One step is opened and no more: the power of ten that a division takes is not to be evaluated.
    conv at h => lhs; whnf
    rw [Int.natAbs_natCast] at h
    cases hp : powerOfTen? e with
    | none =>
      rw [hp] at h
      dsimp only at h
      rw [if_neg hx, if_pos (Int.natCast_nonneg e)] at h
      cases h
    | some p =>
      rw [hp] at h
      dsimp only at h
      rw [if_pos (Int.natCast_nonneg e)] at h
      exact ⟨p, rfl, h⟩

theorem two_pow_le_of_powerOfTen? {p : Binary64} {e : Nat} (h : powerOfTen? (e + 1) = some p) :
    (2 : ℚ) ^ 3 ≤ p.toRat := by
  rw [powerOfTen?, Option.ite_none_right_eq_some] at h
  apply Binary64.two_pow_le_of_ofNat? h.2
  rw [Nat.pow_eq]
  calc 2 ^ 3 ≤ 10 ^ 1 := by decide
    _ ≤ 10 ^ (e + 1) := Nat.pow_le_pow_right (by decide) (Nat.succ_pos e)

theorem two_pow_le_of_scaleByTen {steps e : Nat} (hx : (2 : ℚ) ^ k ≤ x.toRat)
    (h : scaleByTen steps x (e + 1 : Nat) = some y) : 2 ^ (k + 3) ≤ y.toRat := by
  have hpos : (0 : ℚ) < 2 ^ k := pow_pos two_pos k
  have hmantissa : x.mantissa ≠ 0 := by
    intro hzero
    rw [Binary64.toRat, hzero, Nat.cast_zero, zero_mul] at hx
    exact absurd hx (not_le.mpr hpos)
  obtain ⟨p, hp, hproduct⟩ := mul?_of_scaleByTen hmantissa h
  apply Binary64.two_pow_le_of_mul? hproduct
  rw [pow_add]
  gcongr
  · exact hpos.le.trans hx
  · exact two_pow_le_of_powerOfTen? hp

theorem floor_of_ofNat? {n : Nat} (h : Binary64.ofNat? n = some x) (hn : 2 ^ 63 ≤ n) :
    2 ^ 63 ≤ x.floor := by
  rw [Binary64.le_floor_iff]
  exact_mod_cast Binary64.two_pow_le_of_ofNat? h hn

theorem floor_of_mantissa_zero (h : x.mantissa = 0) : x.floor = 0 := by
  by_contra hne
  have hone : 1 ≤ x.floor := Nat.one_le_iff_ne_zero.mpr hne
  rw [Binary64.le_floor_iff, Binary64.toRat, h, Nat.cast_zero, zero_mul, Nat.cast_one] at hone
  exact absurd hone (not_le.mpr one_pos)

theorem double_of_doubleOf? {significand e : Nat} (hsignificand : 2 ^ 60 ≤ significand)
    (h : doubleOf? negative significand (e + 1 : Nat) = some number) :
    ∃ x, number = .double negative x ∧ 2 ^ 63 ≤ x.floor := by
  rw [doubleOf?] at h
  cases hx : Binary64.ofNat? significand with
  | none =>
    rw [hx] at h
    cases h
  | some x =>
    rw [hx] at h
    obtain ⟨y, hy, rfl⟩ := Option.map_eq_some_iff.mp h
    refine ⟨y, rfl, ?_⟩
    rw [Binary64.le_floor_iff]
    exact_mod_cast two_pow_le_of_scaleByTen (Binary64.two_pow_le_of_ofNat? hx hsignificand) hy

end Doubles

section Values

variable {negative : Bool} {ds : List Nat} {number : Number}

def signed (negative : Bool) (n : Nat) : Int :=
  if negative then -n else n

@[simp] theorem signed_false (n : Nat) : signed false n = n := rfl

@[simp] theorem signed_true (n : Nat) : signed true n = -n := rfl

/-- The ways in which an integer literal is read: as the integer that it denotes, as a zero with a
sign, or as a double beyond the signed 64-bit range. -/
inductive ReadAs (negative : Bool) (n : Nat) : Number → Prop
  | integer (h : -2 ^ 63 ≤ signed negative n) : ReadAs negative n (.integer (signed negative n))
  | zero {x : Binary64} (hn : n = 0) (hx : x.mantissa = 0) : ReadAs negative n (.double negative x)
  | beyond {x : Binary64} (hn : 2 ^ 63 ≤ n) (hx : 2 ^ 63 ≤ x.floor) :
      ReadAs negative n (.double negative x)

theorem readAs_of_negated {n : Nat}
    (h : (if n = 0 || Nat.pow 2 63 < n then (Binary64.ofNat? n).map (.double true)
      else some (.integer (-n))) = some number) : ReadAs true n number := by
  split at h
  · next hn =>
    obtain ⟨x, hx, rfl⟩ := Option.map_eq_some_iff.mp h
    rcases (Bool.or_eq_true _ _).mp hn with hzero | hlarge
    · obtain rfl := of_decide_eq_true hzero
      cases hx
      exact .zero rfl rfl
    · have hle : 2 ^ 63 ≤ n := Nat.le_of_lt (of_decide_eq_true hlarge)
      exact .beyond hle (floor_of_ofNat? hx hle)
  · next hn =>
    cases h
    rw [Bool.or_eq_true, not_or, decide_eq_true_eq, decide_eq_true_eq] at hn
    have hle : n ≤ 2 ^ 63 := Nat.le_of_not_lt hn.2
    exact .integer (Int.neg_le_neg (by exact_mod_cast hle))

theorem readAs_of_value? (hds : ∀ d ∈ ds, d < 10)
    (h : (⟨negative, ds, [], none⟩ : Literal).value? = some number) :
    ReadAs negative (ofDigits ds) number := by
  have hword : wordMax = 2 ^ 64 - 1 := rfl
  by_cases hfits : ofDigits ds ≤ wordMax
  · rw [Literal.value?, takeDigits_of_le hfits] at h
    cases negative with
    | false =>
      cases h
      exact .integer (by rw [signed_false]; omega)
    | true => exact readAs_of_negated h
  · obtain ⟨taken, d, rest, htaken, hlarge⟩ :=
      takeDigits_of_lt (Nat.zero_le _) hds (Nat.lt_of_not_le hfits)
    rw [Literal.value?, htaken] at h
    obtain ⟨x, rfl, hx⟩ := double_of_doubleOf? (e := rest.length) (by omega) h
    exact .beyond (by omega) hx

theorem clampInt64_eq (n : Int) : clampInt64 n = max (-2 ^ 63) (min (2 ^ 63 - 1) n) := rfl

theorem toInt64_integer {n : Int} (h : -2 ^ 63 ≤ n) :
    (Number.integer n).toInt64 = clampInt64 n := by
  have hmax : int64Max = 2 ^ 63 - 1 := rfl
  rw [Number.toInt64, clampInt64_eq, hmax]
  split
  · omega
  · split
    · next x hx =>
      have hfloor : 2 ^ 63 ≤ x.floor := floor_of_ofNat? hx (by omega)
      rw [clampInt64_eq]
      omega
    · omega

/-- Whichever way an integer literal is read, its signed 64-bit integer is the nearest to what the
literal denotes. -/
theorem toInt64_of_readAs {n : Nat} (h : ReadAs negative n number) :
    number.toInt64 = clampInt64 (signed negative n) := by
  cases h with
  | integer hn => exact toInt64_integer hn
  | zero hn hx =>
    rw [Number.toInt64, floor_of_mantissa_zero hx, hn]
    rfl
  | beyond hn hx =>
    rw [Number.toInt64, clampInt64_eq, clampInt64_eq]
    cases negative with
    | false =>
      rw [signed_false, if_neg Bool.false_ne_true]
      omega
    | true =>
      rw [signed_true, if_pos rfl]
      omega

end Values

end Json

namespace Json.Reader

section Literals

variable {negative : Bool} {cs ds rest : List Char}

theorem length_digits_le (cs : List Char) : (digits cs).2.length ≤ cs.length :=
  (List.dropWhile_suffix Char.isDigit).length_le

/-- A fraction that is there takes something of the text. -/
theorem fraction?_eq_some {fraction : List Nat} (h : fraction? cs = some (fraction, rest)) :
    fraction = [] ∧ rest = cs ∨ rest.length < cs.length := by
  unfold fraction? at h
  split at h
  · next after =>
    have hlength := length_digits_le after
    split at h
    · cases h
    · next hdigits =>
      cases h
      rw [hdigits] at hlength
      exact .inr (Nat.lt_succ_of_le hlength)
  · cases h
    exact .inl ⟨rfl, rfl⟩

theorem length_le_of_exponentDigits? {down : Bool} {exponent : Option (Bool × List Nat)}
    (h : exponentDigits? down cs = some (exponent, rest)) : rest.length ≤ cs.length := by
  have hlength := length_digits_le cs
  unfold exponentDigits? at h
  split at h
  · cases h
  · next hdigits =>
    cases h
    rw [hdigits] at hlength
    exact hlength

theorem exponent?_eq_some {exponent : Option (Bool × List Nat)}
    (h : exponent? cs = some (exponent, rest)) :
    exponent = none ∧ rest = cs ∨ rest.length < cs.length := by
  unfold exponent? at h
  split at h
  · next c after =>
    split at h
    · right
      split at h
      all_goals
        have hlength := length_le_of_exponentDigits? h
        simp only [List.length_cons] at hlength ⊢
        omega
    · cases h
      exact .inl ⟨rfl, rfl⟩
  · cases h
    exact .inl ⟨rfl, rfl⟩

theorem whole?_eq_some {whole : List Nat} (h : whole? cs = some (whole, rest)) :
    digits cs = (whole, rest) := by
  unfold whole? at h
  split at h
  · cases h
  · cases h
  · next hdigits =>
    cases h
    exact hdigits

/-- A literal that ends where its digits end has neither a fraction nor an exponent. -/
theorem literal?_of_digits (hds : ∀ c ∈ ds, c.isDigit = true) {l : Literal}
    (h : literal? negative (ds ++ rest) = some (l, rest)) :
    l = ⟨negative, ds.map (·.toNat - 48), [], none⟩ := by
  simp only [literal?, Option.bind_eq_bind, Option.bind_eq_some_iff, Option.some.injEq,
    Prod.mk.injEq, Prod.exists] at h
  obtain ⟨whole, afterWhole, hwhole, fraction, afterFraction, hfraction, exponent, afterExponent,
    hexponent, rfl, rfl⟩ := h
  obtain ⟨rfl, rfl⟩ := Prod.mk.inj (whole?_eq_some hwhole)
  rw [List.dropWhile_append_of_pos hds] at hfraction
  have hshort := (List.dropWhile_suffix Char.isDigit (l := afterExponent)).length_le
  rcases exponent?_eq_some hexponent with ⟨rfl, rfl⟩ | hexponent
  · rcases fraction?_eq_some hfraction with ⟨rfl, hstop⟩ | hfraction
    · have hrun : afterExponent.takeWhile Char.isDigit = [] := by
        have hsplit := List.takeWhile_append_dropWhile (p := Char.isDigit) (l := afterExponent)
        rwa [← hstop, List.append_left_eq_self] at hsplit
      rw [List.takeWhile_append_of_pos hds, hrun, List.append_nil]
    · omega
  · rcases fraction?_eq_some hfraction with ⟨-, rfl⟩ | hfraction <;> omega

end Literals

section Values

variable {fuel depth : Nat} {c : Char} {cs more ds rest : List Char} {number : Number}

/-- What begins with a sign or a digit is read as a number. -/
theorem value?_number (hc : c = '+' ∨ c = '-' ∨ c.isDigit = true) (hcs : skipSpace cs = c :: more) :
    value? (fuel + 1) depth cs = (number? (c :: more)).map fun (n, rest) => (.number n, rest) := by
  rw [value?, hcs]
  split
  all_goals first
    | rfl
    | next heq =>
      cases heq
      exact absurd hc (by decide)

theorem digit_lt_ten (hds : ∀ c ∈ ds, c.isDigit = true) :
    ∀ d ∈ ds.map (·.toNat - 48), d < 10 := by
  intro d hd
  obtain ⟨c, hc, rfl⟩ := List.mem_map.mp hd
  have hdigit := hds c hc
  simp only [Char.isDigit, Bool.and_eq_true, decide_eq_true_eq, ge_iff_le,
    UInt32.le_iff_toNat_le] at hdigit
  have hle : c.toNat ≤ 57 := hdigit.2
  omega

theorem readAs_of_literal? {negative : Bool} {l : Literal} (hds : IsDigits ds)
    (hl : literal? negative (ds ++ rest) = some (l, rest)) (hn : l.value? = some number) :
    ReadAs negative (numberOf ds) number := by
  rw [literal?_of_digits hds.2 hl] at hn
  rw [← ofDigits_eq_numberOf]
  exact readAs_of_value? (digit_lt_ten hds.2) hn

theorem number?_eq_some (h : number? (c :: cs) = some (number, rest)) :
    ∃ l, l.value? = some number ∧
      (if c = '-' then literal? true cs else literal? false (c :: cs)) = some (l, rest) := by
  unfold number? at h
  split at h
  all_goals
    obtain ⟨⟨l, after⟩, hl, hvalue⟩ := Option.bind_eq_some_iff.mp h
    obtain ⟨n, hn, heq⟩ := Option.bind_eq_some_iff.mp hvalue
    cases heq
    refine ⟨l, hn, ?_⟩
  · next hminus =>
    cases hminus
    rwa [if_pos rfl]
  · next hne =>
    rwa [if_neg fun hc => hne cs (by rw [hc])]

/-- Says that the reader, at some place of some text, takes a literal and nothing more for a value.
-/
def Takes (literal : List Char) (v : Json) : Prop :=
  ∃ fuel depth cs rest, skipSpace cs = literal ++ rest ∧ value? fuel depth cs = some (v, rest)

theorem number_of_takes {literal : List Char} {v : Json} (h : Takes (c :: literal) v)
    (hc : c = '+' ∨ c = '-' ∨ c.isDigit = true) :
    ∃ number rest, v = .number number ∧
      number? (c :: (literal ++ rest)) = some (number, rest) := by
  obtain ⟨fuel, depth, cs, rest, hcs, hv⟩ := h
  cases fuel with
  | zero => cases hv
  | succ fuel =>
    rw [value?_number hc hcs] at hv
    obtain ⟨⟨number, after⟩, hnumber, heq⟩ := Option.map_eq_some_iff.mp hv
    cases heq
    exact ⟨number, rest, rfl, hnumber⟩

/-- The reader takes the spelling of an integer in one of the ways of reading it. -/
theorem exists_readAs {literal : List Char} {n : Int} {v : Json} (hn : Spells literal n)
    (hv : Takes literal v) :
    ∃ negative m number, n = signed negative m ∧ v = .number number ∧ ReadAs negative m number := by
  cases hn with
  | unsigned hds =>
    obtain ⟨c, ds, rfl⟩ := List.exists_cons_of_ne_nil hds.1
    have hc : c.isDigit = true := hds.2 c List.mem_cons_self
    have hne : c ≠ '-' := by
      rintro rfl
      cases hc
    obtain ⟨number, rest, hv, hnumber⟩ := number_of_takes hv (.inr (.inr hc))
    obtain ⟨l, hvalue, hl⟩ := number?_eq_some hnumber
    rw [if_neg hne] at hl
    exact ⟨false, _, number, rfl, hv, readAs_of_literal? hds hl hvalue⟩
  | positive hds =>
    obtain ⟨number, rest, -, hnumber⟩ := number_of_takes hv (.inl rfl)
    obtain ⟨l, -, hl⟩ := number?_eq_some hnumber
    cases hl
  | negative hds =>
    obtain ⟨number, rest, hv, hnumber⟩ := number_of_takes hv (.inr (.inl rfl))
    obtain ⟨l, hvalue, hl⟩ := number?_eq_some hnumber
    rw [if_pos rfl] at hl
    exact ⟨true, _, number, rfl, hv, readAs_of_literal? hds hl hvalue⟩

end Values

end Json.Reader

end ModuleCatalog
