import ModuleCatalog.Proofs.Merge
import Mathlib.Data.List.Induction

/-!
Merging by position: an entry comes through if it is the first visible holder of its identity, and
what comes through stays as it is and where it is among the others.
-/
namespace ModuleCatalog.Catalog

open Entry (isVisible_iff)

/-- The entry at a position is visible, and no visible entry before it has its identity. -/
def HoldsFirst (es : List Entry) (i : Nat) : Prop :=
  ∃ e, es[i]? = some e ∧ e.visibility = 1 ∧
    ∀ j < i, ∀ x, es[j]? = some x → x.visibility = 1 → x.identity ≠ e.identity

theorem HoldsFirst.lt_length {es : List Entry} {i : Nat} (h : HoldsFirst es i) : i < es.length := by
  obtain ⟨e, he, -⟩ := h
  exact (List.getElem?_eq_some_iff.mp he).1

/-- What follows a position has no say in it. -/
theorem holdsFirst_append {es : List Entry} {i : Nat} (more : List Entry) (hi : i < es.length) :
    HoldsFirst (es ++ more) i ↔ HoldsFirst es i := by
  have hget (j : Nat) (hj : j < es.length) : (es ++ more)[j]? = es[j]? :=
    List.getElem?_append_left hj
  unfold HoldsFirst
  rw [hget i hi]
  refine exists_congr fun e => and_congr_right fun _ => and_congr_right fun _ => ?_
  refine forall_congr' fun j => forall_congr' fun hj => ?_
  rw [hget j (by omega)]

theorem holdsFirst_length {es : List Entry} {e : Entry} :
    HoldsFirst (es ++ [e]) es.length ↔
      e.visibility = 1 ∧ ∀ x ∈ es, x.visibility = 1 → x.identity ≠ e.identity := by
  have hlast : (es ++ [e])[es.length]? = some e := by simp
  constructor
  · rintro ⟨y, hy, hv, hfirst⟩
    obtain rfl : e = y := Option.some.inj (hlast.symm.trans hy)
    refine ⟨hv, fun x hx => ?_⟩
    obtain ⟨j, hj, rfl⟩ := List.mem_iff_getElem.mp hx
    exact hfirst j hj _ (by simp [List.getElem?_append_left hj])
  · rintro ⟨hv, hfirst⟩
    refine ⟨e, hlast, hv, fun j hj x hx => hfirst x ?_⟩
    rw [List.getElem?_append_left hj] at hx
    exact List.mem_of_getElem? hx

theorem holdsFirst_concat {es : List Entry} {e : Entry} {i : Nat} :
    HoldsFirst (es ++ [e]) i ↔
      HoldsFirst es i ∨ i = es.length ∧ HoldsFirst (es ++ [e]) es.length := by
  constructor
  · intro h
    have hle : i < es.length + 1 := by simpa using h.lt_length
    rcases Nat.lt_succ_iff_lt_or_eq.mp hle with hi | rfl
    · exact .inl ((holdsFirst_append [e] hi).mp h)
    · exact .inr ⟨rfl, h⟩
  · rintro (h | ⟨rfl, h⟩)
    · exact (holdsFirst_append [e] h.lt_length).mpr h
    · exact h

/-- The last of the entries to be merged comes through if it is the first visible holder of its
identity. -/
theorem merge_concat (es : List Entry) (e : Entry) [Decidable (HoldsFirst (es ++ [e]) es.length)] :
    merge [es ++ [e]] =
      merge [es] ++ if HoldsFirst (es ++ [e]) es.length then [e] else [] := by
  simp only [merge, List.flatten_singleton, List.filter_append, firstOfEach_append]
  congr 1
  by_cases hv : e.isVisible = true
  · have hseen : e.identity ∈ (es.filter Entry.isVisible).map Entry.identity ++ [] ↔
        ¬ HoldsFirst (es ++ [e]) es.length := by
      rw [holdsFirst_length, ← isVisible_iff, List.append_nil, List.mem_map]
      simp only [hv, true_and, List.mem_filter, isVisible_iff]
      grind
    rw [List.filter_cons_of_pos hv, List.filter_nil, firstOfEach, firstOfEach]
    by_cases hf : HoldsFirst (es ++ [e]) es.length
    · rw [if_pos hf, if_neg (mt hseen.mp (not_not.mpr hf))]
      rfl
    · rw [if_neg hf, if_pos (hseen.mpr hf)]
  · have hf : ¬ HoldsFirst (es ++ [e]) es.length := fun h =>
      hv ((isVisible_iff e).mpr (holdsFirst_length.mp h).1)
    rw [List.filter_cons_of_neg hv, List.filter_nil, if_neg hf]
    rfl

/-- Exactly the positions of first visible holders come through, in their order. -/
theorem exists_positions (es : List Entry) :
    ∃ positions : List Nat, positions.Pairwise (· < ·) ∧
      (∀ i, i ∈ positions ↔ HoldsFirst es i) ∧
      (merge [es]).map some = positions.map fun i => es[i]? := by
  classical
  -- From the end: an entry added there leaves every position before it as it was.
  induction es using List.reverseRecOn with
  | nil =>
    refine ⟨[], .nil, fun i => ⟨nofun, fun h => ?_⟩, rfl⟩
    exact absurd h.lt_length (Nat.not_lt_zero i)
  | append_singleton es e ih =>
    obtain ⟨positions, hsorted, hmem, hmap⟩ := ih
    have hlt {i : Nat} (hi : i ∈ positions) : i < es.length := ((hmem i).mp hi).lt_length
    have hold : (merge [es]).map some = positions.map fun i => (es ++ [e])[i]? := by
      rw [hmap]
      exact List.map_congr_left fun i hi => (List.getElem?_append_left (hlt hi)).symm
    have hlast : (es ++ [e])[es.length]? = some e := by simp
    by_cases hf : HoldsFirst (es ++ [e]) es.length
    · refine ⟨positions ++ [es.length], ?_, fun i => ?_, ?_⟩
      · rw [List.pairwise_append]
        refine ⟨hsorted, List.pairwise_singleton _ _, fun i hi j hj => ?_⟩
        obtain rfl := List.mem_singleton.mp hj
        exact hlt hi
      · rw [holdsFirst_concat, List.mem_append, List.mem_singleton, hmem, and_iff_left hf]
      · rw [merge_concat, if_pos hf, List.map_append, hold, List.map_append, List.map_singleton,
          List.map_singleton, hlast]
    · refine ⟨positions, hsorted, fun i => ?_, ?_⟩
      · rw [holdsFirst_concat, hmem, or_iff_left fun h => hf h.2]
      · rw [merge_concat, if_neg hf, List.append_nil, hold]

/-- A first visible holder comes through. -/
theorem HoldsFirst.mem_merge {es : List Entry} {i : Nat} (h : HoldsFirst es i) {e : Entry}
    (he : es[i]? = some e) : e ∈ merge [es] := by
  obtain ⟨positions, -, hmem, hmap⟩ := exists_positions es
  have hm : some e ∈ (merge [es]).map some := by
    rw [hmap]
    exact List.mem_map.mpr ⟨i, (hmem i).mpr h, he⟩
  simpa using hm

/-- Every visible entry has its identity in the merged list, under the first visible holder. -/
theorem find?_mem_merge {es : List Entry} {e : Entry} (he : e ∈ es) (hv : e.visibility = 1) :
    ∃ first ∈ merge [es], first.identity = e.identity ∧
      es.find? (fun x => x.visibility == 1 && x.identity == e.identity) = some first := by
  have hsome : (es.find? fun x => x.visibility == 1 && x.identity == e.identity).isSome = true := by
    rw [List.find?_isSome]
    exact ⟨e, he, by simp [hv]⟩
  obtain ⟨first, hfirst⟩ := Option.isSome_iff_exists.mp hsome
  obtain ⟨hp, i, hi, hget, hbefore⟩ := List.find?_eq_some_iff_getElem.mp hfirst
  obtain ⟨hvisible, hidentity⟩ : first.visibility = 1 ∧ first.identity = e.identity := by
    simpa using hp
  have hat : es[i]? = some first := List.getElem?_eq_some_iff.mpr ⟨hi, hget⟩
  refine ⟨first, HoldsFirst.mem_merge ⟨first, hat, hvisible, fun j hj x hx hxv => ?_⟩ hat,
    hidentity, hfirst⟩
  obtain ⟨hlt, rfl⟩ := List.getElem?_eq_some_iff.mp hx
  have hnot := hbefore j hj
  rw [hidentity]
  simpa [hxv] using hnot

/-- A hidden entry might as well not be there. -/
theorem merge_hidden {before after : List Entry} {hidden : Entry} (h : hidden.visibility ≠ 1) :
    merge [before ++ hidden :: after] = merge [before ++ after] := by
  have hv : hidden.isVisible = false := Bool.eq_false_iff.mpr (mt (isVisible_iff hidden).mp h)
  simp [merge, hv]

/-- Merging takes the first visible holder of every identity, unchanged and in the order in which
they stand in the lists; hidden entries make no difference. -/
theorem merge_spec (lists : List (List Entry)) :
    (∃ positions : List Nat, positions.Pairwise (· < ·) ∧
      (∀ i, i ∈ positions ↔ HoldsFirst lists.flatten i) ∧
      (merge lists).map some = positions.map fun i => lists.flatten[i]?) ∧
    ((merge lists).map Entry.identity).Nodup ∧
    (∀ e ∈ lists.flatten, e.visibility = 1 →
      ∃ first ∈ merge lists, first.identity = e.identity ∧
        lists.flatten.find? (fun x => x.visibility == 1 && x.identity == e.identity) =
          some first) ∧
    (∀ e ∈ merge lists, e.visibility = 1) ∧
    ∀ before hidden after, lists.flatten = before ++ hidden :: after → hidden.visibility ≠ 1 →
      merge lists = merge [before ++ after] := by
  have hflat : merge lists = merge [lists.flatten] := by simp [merge]
  refine ⟨?_, nodup_identity_merge lists, ?_, ?_, ?_⟩
  · rw [hflat]
    exact exists_positions lists.flatten
  · intro e he hv
    rw [hflat]
    exact find?_mem_merge he hv
  · intro e he
    exact (isVisible_iff e).mp (isVisible_of_mem_merge he)
  · intro before hidden after hsplit h
    rw [hflat, hsplit]
    exact merge_hidden h

/-- Of three holders of one name and repository the first is hidden and the last comes too late;
another repository is another identity. Among meta-modules the ids decide, whatever the names are.
-/
theorem merge_spec_three_holders :
    let holder (repo : String) (visibility : Int) (author : String) : Entry :=
      ⟨.modules, "", "m", "", author, repo, "", "", visibility, "", "", true⟩
    let lists := [[holder "r" 0 "a", holder "r" 1 "b"], [holder "s" 1 "d", holder "r" 1 "c"]]
    let metaModule (id name : String) : Entry :=
      ⟨.metaModules, id, name, "", "", "r", "", "", 1, "", "", true⟩
    let metaLists := [[metaModule "i" "m", metaModule "j" "m"], [metaModule "i" "n"]]
    merge lists = [holder "r" 1 "b", holder "s" 1 "d"] ∧
      (holder "r" 1 "c" ∈ lists.flatten ∧
        ∃ first ∈ merge lists, first.identity = (holder "r" 1 "c").identity ∧
          lists.flatten.find?
            (fun x => x.visibility == 1 && x.identity == (holder "r" 1 "c").identity) =
              some first) ∧
      merge lists = merge [[holder "r" 1 "b", holder "s" 1 "d", holder "r" 1 "c"]] ∧
      merge metaLists = [metaModule "i" "m", metaModule "j" "m"] ∧
      ∃ first ∈ merge metaLists, first.identity = (metaModule "i" "n").identity ∧
        metaLists.flatten.find?
          (fun x => x.visibility == 1 && x.identity == (metaModule "i" "n").identity) =
            some first := by
  intro holder lists metaModule metaLists
  obtain ⟨-, -, hfirst, -, hhidden⟩ := merge_spec lists
  obtain ⟨-, -, hfirstMeta, -, -⟩ := merge_spec metaLists
  have hmem : holder "r" 1 "c" ∈ lists.flatten := by decide
  exact ⟨by decide, ⟨hmem, hfirst _ hmem rfl⟩,
    hhidden [] (holder "r" 0 "a") [holder "r" 1 "b", holder "s" 1 "d", holder "r" 1 "c"] rfl
      (by decide),
    by decide, hfirstMeta (metaModule "i" "n") (by decide) rfl⟩

end ModuleCatalog.Catalog
