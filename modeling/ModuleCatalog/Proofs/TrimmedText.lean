import ModuleCatalog.Text.Blank
import Mathlib.Data.List.DropRight

/-!
Trimmed texts: those that neither begin nor end with white space, and addresses less the slashes at
their end.
-/
namespace ModuleCatalog.Text

theorem dropTrailing_eq_rdropWhile (p : Char → Bool) (cs : List Char) :
    dropTrailing p cs = cs.rdropWhile p := rfl

theorem dropWhile_eq_self_of_head? {p : Char → Bool} {cs : List Char}
    (h : ∀ c ∈ cs.head?, p c = false) : cs.dropWhile p = cs := by
  cases cs with
  | nil => rfl
  | cons c cs => exact List.dropWhile_cons_of_neg (Bool.eq_false_iff.mp (h c rfl))

theorem rdropWhile_eq_self_of_getLast? {p : Char → Bool} {cs : List Char}
    (h : ∀ c ∈ cs.getLast?, p c = false) : cs.rdropWhile p = cs := by
  rw [List.rdropWhile_eq_self_iff]
  intro hne
  exact Bool.eq_false_iff.mp (h _ (List.getLast?_eq_some_getLast hne))

/-- What is trimmed begins and ends with something else than white space. -/
theorem trimChars_ends (cs : List Char) :
    (∀ c ∈ (trimChars cs).head?, isBlank c = false) ∧
      ∀ c ∈ (trimChars cs).getLast?, isBlank c = false := by
  rw [trimChars, dropTrailing_eq_rdropWhile]
  constructor
  · intro c hc
    obtain ⟨rest, hrest⟩ := List.rdropWhile_prefix isBlank (l := cs.dropWhile isBlank)
    have hhead : (cs.dropWhile isBlank).head? = some c := by
      rw [← hrest, List.head?_append, Option.mem_def.mp hc, Option.some_or]
    simpa [hhead] using List.head?_dropWhile_not isBlank cs
  · intro c hc
    have hne : (cs.dropWhile isBlank).rdropWhile isBlank ≠ [] := by
      rintro hnil
      rw [hnil] at hc
      cases hc
    have hlast := List.rdropWhile_last_not isBlank (cs.dropWhile isBlank) hne
    rw [List.getLast?_eq_some_getLast hne] at hc
    cases hc
    exact Bool.eq_false_iff.mpr hlast

theorem trimChars_eq_self_iff {cs : List Char} :
    trimChars cs = cs ↔
      (∀ c ∈ cs.head?, isBlank c = false) ∧ ∀ c ∈ cs.getLast?, isBlank c = false := by
  constructor
  · intro h
    exact h ▸ trimChars_ends cs
  · rintro ⟨hhead, hlast⟩
    rw [trimChars, dropTrailing_eq_rdropWhile, dropWhile_eq_self_of_head? hhead,
      rdropWhile_eq_self_of_getLast? hlast]

theorem trimChars_trimChars (cs : List Char) : trimChars (trimChars cs) = trimChars cs :=
  trimChars_eq_self_iff.mpr (trimChars_ends cs)

theorem trim_eq_self_iff {s : String} : trim s = s ↔ trimChars s.toList = s.toList := by
  rw [trim, ← String.toList_inj, String.toList_ofList]

@[simp] theorem trim_trim (s : String) : trim (trim s) = trim s := by
  rw [trim_eq_self_iff, trim, String.toList_ofList, trimChars_trimChars]

theorem dropTrailingSlashes_eq_empty_iff {s : String} :
    dropTrailingSlashes s = "" ↔ ∀ c ∈ s.toList, c = '/' := by
  rw [dropTrailingSlashes, dropTrailing_eq_rdropWhile, ← String.toList_inj, String.toList_ofList,
    String.toList_empty, List.rdropWhile_eq_nil_iff]
  simp

theorem dropTrailingSlashes_append_slashes (s : String) (n : Nat) :
    dropTrailingSlashes (s ++ .ofList (.replicate n '/')) = dropTrailingSlashes s := by
  have hslashes : ∀ c ∈ List.replicate n '/', (c == '/') = true := by
    intro c hc
    rw [List.eq_of_mem_replicate hc]
    rfl
  rw [dropTrailingSlashes, dropTrailingSlashes, String.toList_append, String.toList_ofList,
    dropTrailing, List.reverse_append, List.reverse_replicate,
    List.dropWhile_append_of_pos hslashes]
  rfl

end ModuleCatalog.Text
