import Mathlib.Data.List.Lex
import Mathlib.Order.Lattice
import ModuleCatalog.Catalog.Display

/-!
The order in which entries are shown. A stable order is fixed by the key: of the lists in which no
key comes after a larger one, only one leaves every group of equal keys as it was. Sorting by name
gives that list, and picking entries out of it gives the stable order of what is picked.
-/
namespace ModuleCatalog

section StableOrder

variable {α κ : Type*} [LinearOrder κ] {key : α → κ} {list ordered other : List α}

/-- The second list has the elements of the first one in the order of their keys, and those of one
key as they stand in the first one. -/
structure StablyOrdered (key : α → κ) (list ordered : List α) : Prop where
  nondecreasing : ordered.Pairwise fun a b => key a ≤ key b
  ties_kept : ∀ k, ordered.filter (fun a => key a = k) = list.filter fun a => key a = k

theorem key_head_le {a b : α} (h : (a :: list).Pairwise fun a b => key a ≤ key b)
    (hb : b ∈ a :: list) : key a ≤ key b := by
  obtain rfl | hb := List.mem_cons.mp hb
  · exact le_refl _
  · exact List.rel_of_pairwise_cons h hb

/-- What comes first in order is an element of the least key, and the first of that key. -/
theorem head_eq_of_ties {a b : α} (ha : (a :: ordered).Pairwise fun a b => key a ≤ key b)
    (hb : (b :: other).Pairwise fun a b => key a ≤ key b)
    (hties : ∀ k, (a :: ordered).filter (fun a => key a = k) =
      (b :: other).filter fun a => key a = k) : a = b := by
  have hmem {c : α} : c ∈ a :: ordered ↔ c ∈ b :: other := by
    simpa using congrArg (c ∈ ·) (hties (key c))
  have hkey : key a = key b :=
    le_antisymm (key_head_le ha (hmem.mpr List.mem_cons_self))
      (key_head_le hb (hmem.mp List.mem_cons_self))
  have hfirst := hties (key b)
  rw [List.filter_cons_of_pos (by simpa using hkey), List.filter_cons_of_pos (by simp)] at hfirst
  exact (List.cons.inj hfirst).1

theorem eq_of_ties (hordered : ordered.Pairwise fun a b => key a ≤ key b)
    (hother : other.Pairwise fun a b => key a ≤ key b)
    (hties : ∀ k, ordered.filter (fun a => key a = k) = other.filter fun a => key a = k) :
    ordered = other := by
  induction ordered generalizing other with
  | nil =>
    cases other with
    | nil => rfl
    | cons b other => simpa using hties (key b)
  | cons a ordered ih =>
    cases other with
    | nil => simpa using hties (key a)
    | cons b other =>
      obtain rfl := head_eq_of_ties hordered hother hties
      rw [ih hordered.of_cons hother.of_cons]
      intro k
      have hk := hties k
      by_cases ha : key a = k
      · rw [List.filter_cons_of_pos (by simpa using ha),
          List.filter_cons_of_pos (by simpa using ha)] at hk
        exact (List.cons.inj hk).2
      · rwa [List.filter_cons_of_neg (by simpa using ha),
          List.filter_cons_of_neg (by simpa using ha)] at hk

theorem StablyOrdered.unique (h : StablyOrdered key list ordered)
    (h' : StablyOrdered key list other) : ordered = other :=
  eq_of_ties h.nondecreasing h'.nondecreasing fun k => (h.ties_kept k).trans (h'.ties_kept k).symm

theorem StablyOrdered.refl (h : list.Pairwise fun a b => key a ≤ key b) :
    StablyOrdered key list list :=
  ⟨h, fun _ => rfl⟩

/-- Elements that are picked out stand in the order in which they would be sorted. -/
theorem StablyOrdered.filter (h : StablyOrdered key list ordered) (p : α → Bool) :
    StablyOrdered key (list.filter p) (ordered.filter p) where
  nondecreasing := h.nondecreasing.filter p
  ties_kept k := by rw [List.filter_comm, h.ties_kept, List.filter_comm]

theorem stablyOrdered_mergeSort (key : α → κ) (list : List α) :
    StablyOrdered key list (list.mergeSort fun a b => decide (key a ≤ key b)) := by
  have htrans (a b c : α) (hab : decide (key a ≤ key b) = true)
      (hbc : decide (key b ≤ key c) = true) : decide (key a ≤ key c) = true := by
    simpa using (of_decide_eq_true hab).trans (of_decide_eq_true hbc)
  have htotal (a b : α) : (decide (key a ≤ key b) || decide (key b ≤ key a)) = true := by
    simpa using le_total (key a) (key b)
  refine ⟨?_, fun k => ?_⟩
  · exact (List.pairwise_mergeSort htrans htotal list).imp of_decide_eq_true
  · -- The elements of one key are in order already, so that sorting keeps them as they stand.
    have hties : (list.filter fun a => key a = k).Pairwise fun a b =>
        decide (key a ≤ key b) = true := by
      refine List.pairwise_filter.mpr (List.pairwise_of_forall fun a b ha hb => ?_)
      rw [of_decide_eq_true ha, of_decide_eq_true hb]
      simp
    have hsub := (List.sublist_mergeSort htrans htotal hties List.filter_sublist).filter
      fun a => key a = k
    rw [List.filter_eq_self.mpr fun a ha => (List.mem_filter.mp ha).2] at hsub
    exact (hsub.eq_of_length ((List.mergeSort_perm list _).filter _).length_eq.symm).symm

end StableOrder

namespace Catalog

/-- What entries are ordered by: the code points of the lower-cased name. -/
def sortKey (e : Entry) : List Nat :=
  (Text.lower e.name).toList.map Char.toNat

theorem sortKey_le_iff (a b : Entry) :
    sortKey a ≤ sortKey b ↔ Text.lower a.name ≤ Text.lower b.name := by
  have hmono (c d : Char) (h : c < d) : c.toNat < d.toNat := h
  rw [← not_lt]
  constructor
  · intro h hlt
    exact h (List.map_lt hmono (String.lt_iff.mp hlt))
  · intro h
    exact List.map_le hmono fun hlt => h (String.lt_iff.mpr hlt)

theorem sortByName_eq (entries : List Entry) :
    sortByName entries = entries.mergeSort fun a b => decide (sortKey a ≤ sortKey b) := by
  have h := List.map_mergeSort (f := fun e : Entry => (Text.lower e.name, e)) (l := entries)
    (r := fun a b => decide (sortKey a ≤ sortKey b)) (s := fun a b => decide (a.1 ≤ b.1))
    fun a _ b _ => by simp only [sortKey_le_iff]
  rw [sortByName, ← h, List.map_map]
  exact List.map_id _

theorem stablyOrdered_sortByName (entries : List Entry) :
    StablyOrdered sortKey entries (sortByName entries) := by
  rw [sortByName_eq]
  exact stablyOrdered_mergeSort sortKey entries

/-- Sorting by name gives the one list that has the entries ordered by their lower-cased names and
keeps entries of equal names in their order; a search finds the same entries, in the same order,
before and after it. -/
theorem stable_display_order (entries : List Entry) :
    (sortByName entries).Perm entries ∧
    (∀ ordered, StablyOrdered sortKey entries ordered ↔ ordered = sortByName entries) ∧
    sortByName (sortByName entries) = sortByName entries ∧
    ∀ query, search (sortByName entries) query = sortByName (search entries query) := by
  have hsorted := stablyOrdered_sortByName entries
  refine ⟨?_, fun ordered => ⟨fun h => h.unique hsorted, ?_⟩, ?_, fun query => ?_⟩
  · rw [sortByName_eq]
    exact List.mergeSort_perm entries _
  · rintro rfl
    exact hsorted
  · exact (stablyOrdered_sortByName _).unique (.refl hsorted.nondecreasing)
  · exact (hsorted.filter (answers query)).unique (stablyOrdered_sortByName _)

/-- Two entries change places exactly where the lower-cased name of the second comes first. -/
theorem sortByName_pair (a b : Entry) :
    sortByName [a, b] = if sortKey b < sortKey a then [b, a] else [a, b] := by
  have hsorted := stablyOrdered_sortByName [a, b]
  split
  · next hlt =>
    refine hsorted.unique ⟨by simpa using hlt.le, fun k => ?_⟩
    by_cases ha : sortKey a = k
    · simp [ha, (ha ▸ hlt).ne]
    · simp [List.filter_cons, ha]
  · next hle => exact hsorted.unique (.refl (by simpa using hle))

/-- Capital letters do not come before small ones. -/
example :
    let named (name : String) : Entry := ⟨.modules, "", name, "", "", "", "", "", 1, "", "", true⟩
    sortByName [named "Beta", named "alpha"] = [named "alpha", named "Beta"] := by
  intro named
  rw [sortByName_pair, if_pos (by decide +kernel)]

end Catalog

end ModuleCatalog
