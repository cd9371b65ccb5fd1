import Mathlib.Data.List.TakeWhile

/-!
Searches of a text, and the runs of characters that they take. A search that tries one position
after another finds what stands at the first position where anything is found, so that a place where
a pattern only begins hides nothing.
-/
namespace ModuleCatalog.Release

section Search

variable {α : Type}

/-- A search that tries every position of a text in turn for what is found at its front. -/
structure Searches (find? here? : List Char → Option α) : Prop where
  find?_nil : find? [] = none
  here?_nil : here? [] = none
  find?_cons : ∀ c cs, find? (c :: cs) = (here? (c :: cs)).or (find? cs)

variable {find? here? : List Char → Option α} {cs tail : List Char} {found : α}

theorem Searches.eq_some_iff (h : Searches find? here?) :
    find? cs = some found ↔
      ∃ i, here? (cs.drop i) = some found ∧ ∀ j < i, here? (cs.drop j) = none := by
  induction cs with
  | nil => simp [h.find?_nil, h.here?_nil]
  | cons c cs ih =>
    rw [h.find?_cons]
    cases hhere : here? (c :: cs) with
    | some first =>
      rw [Option.some_or]
      constructor
      · intro hfirst
        exact ⟨0, hhere.trans hfirst, nofun⟩
      · rintro ⟨i, hi, hbefore⟩
        cases i with
        | zero => exact hhere.symm.trans hi
        | succ i =>
          have hnone : here? (c :: cs) = none := hbefore 0 (Nat.succ_pos i)
          rw [hhere] at hnone
          cases hnone
    | none =>
      rw [Option.none_or, ih]
      constructor
      · rintro ⟨i, hi, hbefore⟩
        refine ⟨i + 1, hi, fun j hj => ?_⟩
        cases j with
        | zero => exact hhere
        | succ j => exact hbefore j (Nat.lt_of_succ_lt_succ hj)
      · rintro ⟨i, hi, hbefore⟩
        cases i with
        | zero =>
          have hsome : here? (c :: cs) = some found := hi
          rw [hhere] at hsome
          cases hsome
        | succ i => exact ⟨i, hi, fun j hj => hbefore (j + 1) (Nat.succ_lt_succ hj)⟩

theorem Searches.eq_none_iff (h : Searches find? here?) :
    find? cs = none ↔ ∀ i, here? (cs.drop i) = none := by
  induction cs with
  | nil => simp [h.find?_nil, h.here?_nil]
  | cons c cs ih =>
    rw [h.find?_cons, Option.or_eq_none_iff, ih]
    constructor
    · rintro ⟨hhere, hrest⟩ i
      cases i with
      | zero => exact hhere
      | succ i => exact hrest i
    · intro hall
      exact ⟨hall 0, fun i => hall (i + 1)⟩

theorem Searches.exists_of_eq_some (h : Searches find? here?) (hfound : find? cs = some found) :
    ∃ before tail, cs = before ++ tail ∧ here? tail = some found := by
  obtain ⟨i, hi, -⟩ := h.eq_some_iff.mp hfound
  exact ⟨cs.take i, cs.drop i, (List.take_append_drop i cs).symm, hi⟩

theorem Searches.eq_none_iff_forall_append (h : Searches find? here?) :
    find? cs = none ↔ ∀ before tail, cs = before ++ tail → here? tail = none := by
  rw [h.eq_none_iff]
  constructor
  · rintro hnone before tail rfl
    have htail := hnone before.length
    rwa [List.drop_left] at htail
  · intro hnone i
    exact hnone (cs.take i) (cs.drop i) (List.take_append_drop i cs).symm

/-- Where something stands further on, it is found, or else something before it. -/
theorem Searches.exists_append (h : Searches find? here?) (hfound : here? tail = some found)
    (before : List Char) : ∃ first, find? (before ++ tail) = some first := by
  rw [← Option.ne_none_iff_exists', Ne, h.eq_none_iff_forall_append]
  intro hnone
  rw [hnone before tail rfl] at hfound
  cases hfound

end Search

/-- A run that ends where its text goes on with another character is all of what is taken. -/
theorem takeWhile_append_stop {p : Char → Bool} {run rest : List Char}
    (hrun : ∀ c ∈ run, p c = true) (hrest : ∀ c ∈ rest.head?, p c = false) :
    (run ++ rest).takeWhile p = run := by
  rw [List.takeWhile_append_of_pos hrun, List.append_right_eq_self]
  cases rest with
  | nil => rfl
  | cons c rest => exact List.takeWhile_cons_of_neg (Bool.eq_false_iff.mp (hrest c rfl))

end ModuleCatalog.Release
