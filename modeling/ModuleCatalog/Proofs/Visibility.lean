import ModuleCatalog.Catalog.Reading
import ModuleCatalog.Proofs.IntegerLiterals

/-!
The visibility that an entry gets from its element. Main statement: `visibility_clamped`. An integer
literal of any length gives what it denotes, clamped to the signed 64-bit range, and a string gives
the integer of that range that its trimmed text spells, or else the one of an entry that is shown.
-/
namespace ModuleCatalog

open Decimal

namespace Entry

section Text

variable {cs : List Char} {n : Int}

theorem digitsOf?_eq_some_iff {m : Nat} : digitsOf? cs = some m ↔ IsDigits cs ∧ numberOf cs = m := by
  rw [← Json.ofDigits_eq_numberOf, isDigits_iff, digitsOf?]
  cases cs.isEmpty <;> cases cs.all Char.isDigit <;> simp

/-- The integer that a text spells, whatever its size. -/
def spelled? : List Char → Option Int
  | '+' :: ds => (digitsOf? ds).map Int.ofNat
  | '-' :: ds => (digitsOf? ds).map fun n => -Int.ofNat n
  | ds => (digitsOf? ds).map Int.ofNat

theorem spelled?_eq_some_iff : spelled? cs = some n ↔ Spells cs n := by
  constructor
  · intro h
    unfold spelled? at h
    split at h
    all_goals
      obtain ⟨m, hm, rfl⟩ := Option.map_eq_some_iff.mp h
      obtain ⟨hds, rfl⟩ := digitsOf?_eq_some_iff.mp hm
    · exact .positive hds
    · exact .negative hds
    · exact .unsigned hds
  · intro h
    cases h with
    | positive hds => rw [spelled?, digitsOf?_eq_some_iff.mpr ⟨hds, rfl⟩]; rfl
    | negative hds => rw [spelled?, digitsOf?_eq_some_iff.mpr ⟨hds, rfl⟩]; rfl
    | unsigned hds =>
      unfold spelled?
      split
      · exact absurd (hds.2 '+' List.mem_cons_self) (by decide)
      · exact absurd (hds.2 '-' List.mem_cons_self) (by decide)
      · rw [digitsOf?_eq_some_iff.mpr ⟨hds, rfl⟩]
        rfl

/-- A text is read as an integer exactly if it spells one of the signed 64-bit range. -/
theorem int64Of?_eq_some_iff : int64Of? cs = some n ↔ Spells cs n ∧ -2 ^ 63 ≤ n ∧ n ≤ 2 ^ 63 - 1 := by
  have hfilter : int64Of? cs = (spelled? cs).filter fun n => Json.int64Min ≤ n && n ≤ Json.int64Max :=
    rfl
  rw [hfilter, Option.filter_eq_some_iff, spelled?_eq_some_iff, Bool.and_eq_true, decide_eq_true_eq,
    decide_eq_true_eq]
  rfl

end Text

section Visibility

variable {element v : Json}

theorem exists_ofJson? (kind : Kind) (h : element.get? "visibility" = some v) :
    ∃ e, ofJson? kind element = some e ∧ e.visibility = visibilityOf (some v) := by
  cases element with
  | object members => exact ⟨ofMembers kind members, rfl, congrArg visibilityOf h⟩
  | null | bool | number | string | array => cases h

theorem visibilityOf_of_takes {literal : List Char} {n : Int} (hliteral : Spells literal n)
    (htaken : Json.Reader.Takes literal v) :
    visibilityOf (some v) = max (-2 ^ 63) (min n (2 ^ 63 - 1)) := by
  obtain ⟨negative, m, number, rfl, rfl, hread⟩ := Json.Reader.exists_readAs hliteral htaken
  rw [visibilityOf, Json.toInt64_of_readAs hread, Json.clampInt64_eq, min_comm]

theorem visibilityOf_of_spells {s : String} {n : Int} (hn : Spells (Text.trim s).toList n)
    (hmin : -2 ^ 63 ≤ n) (hmax : n ≤ 2 ^ 63 - 1) : visibilityOf (some (.string s)) = n := by
  rw [Text.trim, String.toList_ofList] at hn
  rw [visibilityOf, int64Of?_eq_some_iff.mpr ⟨hn, hmin, hmax⟩, Option.getD_some]

theorem visibilityOf_of_not_spells {s : String}
    (hnone : ∀ n, Spells (Text.trim s).toList n → n < -2 ^ 63 ∨ 2 ^ 63 - 1 < n) :
    visibilityOf (some (.string s)) = 1 := by
  rw [Text.trim, String.toList_ofList] at hnone
  have hunread : int64Of? (Text.trimChars s.toList) = none := by
    rw [Option.eq_none_iff_forall_ne_some]
    intro n hn
    obtain ⟨hspells, hmin, hmax⟩ := int64Of?_eq_some_iff.mp hn
    have hout := hnone n hspells
    omega
  rw [visibilityOf, hunread, Option.getD_none]
  rfl

end Visibility

end Entry

/-- An element whose visibility is an integer literal gives an entry with the integer that the
literal denotes, clamped to the signed 64-bit range, so that the entry is visible exactly if it
denotes one. An element whose visibility is a string gives an entry with the integer of that range
that the trimmed string spells, or with one if it spells none. -/
theorem visibility_clamped (kind : Kind) (element v : Json)
    (h : element.get? "visibility" = some v) :
    ∃ e, Entry.ofJson? kind element = some e ∧
      (∀ (literal : List Char) (n : Int), Spells literal n → Json.Reader.Takes literal v →
        e.visibility = max (-2 ^ 63) (min n (2 ^ 63 - 1)) ∧ (e.isVisible = true ↔ n = 1)) ∧
      ∀ s : String, v = .string s →
        (∀ n, Spells (Text.trim s).toList n → -2 ^ 63 ≤ n → n ≤ 2 ^ 63 - 1 → e.visibility = n) ∧
        ((∀ n, Spells (Text.trim s).toList n → n < -2 ^ 63 ∨ 2 ^ 63 - 1 < n) → e.visibility = 1) := by
  obtain ⟨e, he, hvisibility⟩ := Entry.exists_ofJson? kind h
  refine ⟨e, he, fun literal n hliteral htaken => ?_, ?_⟩
  · have hclamped := hvisibility.trans (Entry.visibilityOf_of_takes hliteral htaken)
    refine ⟨hclamped, ?_⟩
    rw [Entry.isVisible_iff, hclamped]
    omega
  · rintro s rfl
    rw [hvisibility]
    constructor
    · intro n hn hmin hmax
      exact Entry.visibilityOf_of_spells hn hmin hmax
    · intro hnone
      exact Entry.visibilityOf_of_not_spells hnone

/-- A literal that is read as a double, and a string with a sign and white space. -/
theorem visibility_clamped_negative :
    let v : Json := .number (.double true ⟨2 ^ 52, 12⟩)
    let element : Json := .object [("visibility", v)]
    let element' : Json := .object [("visibility", .string " -7 ")]
    (element.get? "visibility" = some v ∧ Spells "-18446744073709551616".toList (-2 ^ 64) ∧
        Json.Reader.Takes "-18446744073709551616".toList v ∧
        ∃ e, Entry.ofJson? .modules element = some e ∧ e.visibility = -2 ^ 63 ∧ ¬e.isVisible = true) ∧
      Spells (Text.trim " -7 ").toList (-7) ∧
        ∃ e, Entry.ofJson? .modules element' = some e ∧ e.visibility = -7 := by
  intro v element element'
  have hliteral : Spells "-18446744073709551616".toList (-2 ^ 64) :=
    .negative (by decide : IsDigits "18446744073709551616".toList)
  have hread : Json.Reader.number? "-18446744073709551616".toList =
      some (.double true ⟨2 ^ 52, 12⟩, []) := by
    decide +kernel
  have htaken : Json.Reader.Takes "-18446744073709551616".toList v := by
    have hspace : Json.Reader.skipSpace "-18446744073709551616".toList =
        '-' :: "18446744073709551616".toList := rfl
    refine ⟨1, 0, _, [], hspace, ?_⟩
    rw [Json.Reader.value?_number (.inr (.inl rfl)) hspace]
    exact congrArg _ hread
  have htrimmed : Spells (Text.trim " -7 ").toList (-7) := by
    have htext : (Text.trim " -7 ").toList = ['-', '7'] := by decide +kernel
    rw [htext]
    exact .negative (by decide : IsDigits ['7'])
  obtain ⟨e, he, hnumber, -⟩ := visibility_clamped .modules element v rfl
  obtain ⟨e', he', -, hstring⟩ := visibility_clamped .modules element' (.string " -7 ") rfl
  obtain ⟨hclamped, hvisible⟩ := hnumber _ (-2 ^ 64) hliteral htaken
  refine ⟨⟨rfl, hliteral, htaken, e, he, hclamped, ?_⟩, htrimmed, e', he', ?_⟩
  · rw [hvisible]
    decide
  · exact (hstring " -7 " rfl).1 (-7) htrimmed (by decide) (by decide)

end ModuleCatalog
