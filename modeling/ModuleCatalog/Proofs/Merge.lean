import ModuleCatalog.Catalog.Merge
import Mathlib.Data.List.Nodup

/-!
What a merged list looks like: no two entries have one identity, every entry is shown, and lists
that are added at the end change nothing before them.
-/
namespace ModuleCatalog.Catalog

/-- Nothing that was seen before comes through, and nothing comes through twice. -/
theorem identities_firstOfEach (seen : List Identity) (es : List Entry) :
    ((firstOfEach seen es).map Entry.identity).Nodup ∧
      ∀ e ∈ firstOfEach seen es, e.identity ∉ seen := by
  induction es generalizing seen with
  | nil => exact ⟨List.nodup_nil, by simp [firstOfEach]⟩
  | cons e es ih =>
    by_cases h : e.identity ∈ seen
    · simpa [firstOfEach, h] using ih seen
    · obtain ⟨hnodup, hfresh⟩ := ih (e.identity :: seen)
      have hhead : e.identity ∉ (firstOfEach (e.identity :: seen) es).map Entry.identity := by
        intro hm
        obtain ⟨x, hx, he⟩ := List.mem_map.mp hm
        exact hfresh x hx (by simp [he])
      refine ⟨by simpa [firstOfEach, h] using ⟨by simpa using hhead, hnodup⟩, ?_⟩
      intro x hx
      rw [firstOfEach, if_neg h] at hx
      rcases List.mem_cons.mp hx with rfl | hx
      · exact h
      · exact fun hs => hfresh x hx (List.mem_cons_of_mem _ hs)

theorem nodup_identity_merge (lists : List (List Entry)) :
    ((merge lists).map Entry.identity).Nodup :=
  (identities_firstOfEach [] _).1

theorem isVisible_of_mem_merge {lists : List (List Entry)} {e : Entry} (h : e ∈ merge lists) :
    e.isVisible = true := by
  have hm := (sublist_firstOfEach [] _).subset h
  exact (List.mem_filter.mp hm).2

theorem firstOfEach_congr {seen seen' : List Identity} (h : ∀ k, k ∈ seen ↔ k ∈ seen')
    (es : List Entry) : firstOfEach seen es = firstOfEach seen' es := by
  induction es generalizing seen seen' with
  | nil => rfl
  | cons e es ih =>
    have hcons : ∀ k, k ∈ e.identity :: seen ↔ k ∈ e.identity :: seen' := by simp [h]
    simp only [firstOfEach, h e.identity, ih h, ih hcons]

/-- What follows a list comes through unless it was seen in the list or before. -/
theorem firstOfEach_append (seen : List Identity) (xs ys : List Entry) :
    firstOfEach seen (xs ++ ys) =
      firstOfEach seen xs ++ firstOfEach (xs.map Entry.identity ++ seen) ys := by
  induction xs generalizing seen with
  | nil => rfl
  | cons e xs ih =>
    by_cases h : e.identity ∈ seen
    · have hseen : ∀ k, k ∈ xs.map Entry.identity ++ seen ↔
          k ∈ (e :: xs).map Entry.identity ++ seen := by
        intro k
        simp only [List.map_cons, List.cons_append, List.mem_cons, List.mem_append]
        refine ⟨.inr, fun hk => hk.elim ?_ id⟩
        rintro rfl
        exact .inr h
      rw [List.cons_append, firstOfEach, if_pos h, ih, firstOfEach, if_pos h,
        firstOfEach_congr hseen]
    · have hseen : ∀ k, k ∈ xs.map Entry.identity ++ e.identity :: seen ↔
          k ∈ (e :: xs).map Entry.identity ++ seen := by
        intro k
        simp only [List.map_cons, List.cons_append, List.mem_cons, List.mem_append]
        exact or_left_comm
      rw [List.cons_append, firstOfEach, if_neg h, ih, firstOfEach, if_neg h,
        firstOfEach_congr hseen, List.cons_append]

theorem merge_prefix_append (lists more : List (List Entry)) :
    merge lists <+: merge (lists ++ more) := by
  rw [merge, merge, List.flatten_append, List.filter_append, firstOfEach_append]
  exact List.prefix_append _ _

end ModuleCatalog.Catalog
