import ModuleCatalog.Proofs.LoadOutcomes
import ModuleCatalog.Proofs.Merge
import ModuleCatalog.Sources.Basic

/-!
The laws of merging. What a merged list shadows in the lists after it is told by the merged list
alone, so that lists can be merged in parts, the bounds between them do not matter, and a list that
comes once more adds nothing.
-/
namespace ModuleCatalog

namespace Catalog

/-- What comes through shadows what its list does, less what was seen before. -/
theorem mem_identities_firstOfEach {seen : List Identity} {es : List Entry} {k : Identity} :
    k ∈ (firstOfEach seen es).map Entry.identity ↔ k ∈ es.map Entry.identity ∧ k ∉ seen := by
  induction es generalizing seen with
  | nil => simp [firstOfEach]
  | cons e es ih =>
    by_cases h : e.identity ∈ seen
    · rw [firstOfEach, if_pos h, ih, List.map_cons, List.mem_cons]
      constructor
      · rintro ⟨hk, hfresh⟩
        exact ⟨.inr hk, hfresh⟩
      · rintro ⟨rfl | hk, hfresh⟩
        · exact absurd h hfresh
        · exact ⟨hk, hfresh⟩
    · rw [firstOfEach, if_neg h, List.map_cons, List.mem_cons, ih, List.map_cons, List.mem_cons,
        List.mem_cons, not_or]
      constructor
      · rintro (rfl | ⟨hk, -, hfresh⟩)
        · exact ⟨.inl rfl, h⟩
        · exact ⟨.inr hk, hfresh⟩
      · rintro ⟨rfl | hk, hfresh⟩
        · exact .inl rfl
        · by_cases heq : k = e.identity
          · exact .inl heq
          · exact .inr ⟨hk, heq, hfresh⟩

/-- What is dropped for an identity is dropped as well where more was seen. -/
theorem firstOfEach_firstOfEach {seen seen' : List Identity} (h : seen ⊆ seen')
    (es : List Entry) : firstOfEach seen' (firstOfEach seen es) = firstOfEach seen' es := by
  induction es generalizing seen seen' with
  | nil => rfl
  | cons e es ih =>
    by_cases hseen : e.identity ∈ seen
    · rw [firstOfEach, if_pos hseen, ih h, firstOfEach, if_pos (h hseen)]
    · rw [firstOfEach, if_neg hseen]
      by_cases hseen' : e.identity ∈ seen'
      · have hsub : e.identity :: seen ⊆ seen' := List.cons_subset.mpr ⟨hseen', h⟩
        rw [firstOfEach, if_pos hseen', ih hsub, firstOfEach, if_pos hseen']
      · have hsub : e.identity :: seen ⊆ e.identity :: seen' := List.cons_subset_cons _ h
        rw [firstOfEach, if_neg hseen', ih hsub, firstOfEach, if_neg hseen']

theorem firstOfEach_eq_nil {seen : List Identity} {es : List Entry}
    (h : es.map Entry.identity ⊆ seen) : firstOfEach seen es = [] := by
  induction es with
  | nil => rfl
  | cons e es ih =>
    rw [List.map_cons, List.cons_subset] at h
    rw [firstOfEach, if_pos h.1]
    exact ih h.2

/-- The entries of all lists that are shown. -/
def visibleIn (lists : List (List Entry)) : List Entry :=
  lists.flatten.filter Entry.isVisible

theorem merge_eq (lists : List (List Entry)) : merge lists = firstOfEach [] (visibleIn lists) := rfl

theorem visibleIn_append (xs ys : List (List Entry)) :
    visibleIn (xs ++ ys) = visibleIn xs ++ visibleIn ys := by
  rw [visibleIn, List.flatten_append, List.filter_append]
  rfl

theorem visibleIn_merge (lists : List (List Entry)) : visibleIn [merge lists] = merge lists := by
  rw [visibleIn, List.flatten_singleton, List.filter_eq_self]
  exact fun e he => isVisible_of_mem_merge he

theorem mem_identities_merge {lists : List (List Entry)} {k : Identity} :
    k ∈ (merge lists).map Entry.identity ↔ k ∈ (visibleIn lists).map Entry.identity := by
  rw [merge_eq, mem_identities_firstOfEach]
  exact and_iff_left List.not_mem_nil

/-- Of what is merged before, only the result has a say in what is merged after it. -/
theorem merge_append (xs ys : List (List Entry)) :
    merge (xs ++ ys) = merge xs ++ firstOfEach ((merge xs).map Entry.identity) (visibleIn ys) := by
  have hseen : ∀ k, k ∈ (visibleIn xs).map Entry.identity ++ [] ↔
      k ∈ (merge xs).map Entry.identity := by
    intro k
    rw [List.append_nil, mem_identities_merge]
  rw [merge_eq, visibleIn_append, firstOfEach_append, firstOfEach_congr hseen, merge_eq]

theorem merge_merge (xs : List (List Entry)) : merge [merge xs] = merge xs := by
  rw [merge_eq, visibleIn_merge, merge_eq, firstOfEach_firstOfEach (List.Subset.refl [])]

theorem merge_append_eq_merge_merges (xs ys : List (List Entry)) :
    merge (xs ++ ys) = merge [merge xs, merge ys] := by
  have hlater : firstOfEach ((merge xs).map Entry.identity) (merge ys) =
      firstOfEach ((merge xs).map Entry.identity) (visibleIn ys) :=
    firstOfEach_firstOfEach (List.nil_subset _) _
  calc merge (xs ++ ys)
      = merge xs ++ firstOfEach ((merge xs).map Entry.identity) (merge ys) := by
        rw [merge_append, hlater]
    _ = merge ([merge xs] ++ [merge ys]) := by
        rw [merge_append, merge_merge, visibleIn_merge]
    _ = merge [merge xs, merge ys] := rfl

/-- Lists that show nothing new make no difference, wherever others follow. -/
theorem merge_append_shadowed {xs ys : List (List Entry)}
    (h : (visibleIn ys).map Entry.identity ⊆ (visibleIn xs).map Entry.identity)
    (zs : List (List Entry)) : merge (xs ++ ys ++ zs) = merge (xs ++ zs) := by
  have hshadowed : merge (xs ++ ys) = merge xs := by
    have hseen : (visibleIn ys).map Entry.identity ⊆ (merge xs).map Entry.identity :=
      fun k hk => mem_identities_merge.mpr (h hk)
    rw [merge_append, firstOfEach_eq_nil hseen, List.append_nil]
  rw [merge_append (xs ++ ys), hshadowed, ← merge_append]

theorem merge_repeated (xs ys zs : List (List Entry)) (list : List Entry) :
    merge (xs ++ [list] ++ ys ++ [list] ++ zs) = merge (xs ++ [list] ++ ys ++ zs) := by
  apply merge_append_shadowed
  rw [visibleIn_append, visibleIn_append, List.map_append, List.map_append]
  exact List.Subset.trans (List.subset_append_right _ _) (List.subset_append_left _ _)

end Catalog

/-- A source that is asked once more adds nothing to what is listed. -/
theorem mergeFetched_repeated (t : Transport) (kind : Kind) (pre mid post : List String)
    (url : String) :
    mergeFetched (fetchAll t kind (pre ++ [url] ++ mid ++ [url] ++ post)) =
      mergeFetched (fetchAll t kind (pre ++ [url] ++ mid ++ post)) := by
  simp only [mergeFetched, fetchAll, List.map_append]
  exact Catalog.merge_repeated _ _ _ _

/-- Without another cycle, what a load leaves depends on the sources only by what they list. -/
theorem Loader.load_congr {l : Loader} {t : Transport} {urls urls' : List String}
    (hbegins : ∀ url, (t.text url).begins = 0)
    (h : mergeFetched (fetchAll t l.kind urls) = mergeFetched (fetchAll t l.kind urls')) :
    (l.load t urls).loader = (l.load t urls').loader ∧
      (l.load t urls).outcome = (l.load t urls').outcome := by
  have hnone (urls : List String) : beginsMeanwhile t urls = 0 := by
    simp [beginsMeanwhile, hbegins]
  rw [load_eq, load_eq, waited_of_none (hnone urls), waited_of_none (hnone urls'), h]
  exact ⟨rfl, rfl⟩

/-- A source list that names the non-free catalog itself asks for it once more under the switch. -/
theorem Sources.exists_effectiveUrls {s : Sources} (h : nonFreeCatalogUrl ∈ s.urls) :
    ∃ pre mid,
      (s.setNonFree true).effectiveUrls = pre ++ [nonFreeCatalogUrl] ++ mid ++ [nonFreeCatalogUrl] ∧
        (s.setNonFree false).effectiveUrls = pre ++ [nonFreeCatalogUrl] ++ mid := by
  obtain ⟨pre, mid, hsplit⟩ := List.append_of_mem h
  refine ⟨pre, mid, ?_, ?_⟩
  · simp [effectiveUrls, setNonFree, hsplit]
  · simp [effectiveUrls, setNonFree, hsplit]

/-- Lists can be merged in parts; what is merged once stays as it is; the bounds between the lists
do not matter; and a list that comes once more is absorbed. Hence a load lists the same, and starts
the same tasks, with a source that it asks once more, such as the non-free catalog that is both in
the list and switched on. -/
theorem merge_composes :
    (∀ xs ys, Catalog.merge (xs ++ ys) = Catalog.merge [Catalog.merge xs, Catalog.merge ys]) ∧
    (∀ xs, Catalog.merge [Catalog.merge xs] = Catalog.merge xs) ∧
    (∀ xs ys, xs.flatten = ys.flatten → Catalog.merge xs = Catalog.merge ys) ∧
    (∀ xs list ys zs, Catalog.merge (xs ++ [list] ++ ys ++ [list] ++ zs) =
      Catalog.merge (xs ++ [list] ++ ys ++ zs)) ∧
    ∀ (l : Loader) (t : Transport), (∀ url, (t.text url).begins = 0) →
      (∀ pre url mid post,
        let twice := l.load t (pre ++ [url] ++ mid ++ [url] ++ post)
        let once := l.load t (pre ++ [url] ++ mid ++ post)
        twice.loader = once.loader ∧ twice.outcome = once.outcome) ∧
      ∀ s : Sources, nonFreeCatalogUrl ∈ s.urls →
        let switched := l.load t ((s.setNonFree true).urlsFor l.kind)
        let plain := l.load t ((s.setNonFree false).urlsFor l.kind)
        switched.loader = plain.loader ∧ switched.outcome = plain.outcome := by
  refine ⟨Catalog.merge_append_eq_merge_merges, Catalog.merge_merge, ?_,
    fun xs list ys zs => Catalog.merge_repeated xs ys zs list, ?_⟩
  · intro xs ys h
    rw [Catalog.merge, Catalog.merge, h]
  · intro l t hbegins
    have hrepeated (pre : List String) (url : String) (mid post : List String) :=
      Loader.load_congr hbegins (mergeFetched_repeated t l.kind pre mid post url)
    refine ⟨hrepeated, fun s hs => ?_⟩
    cases hkind : l.kind with
    | metaModules => exact ⟨rfl, rfl⟩
    | modules =>
      obtain ⟨pre, mid, hswitched, hplain⟩ := Sources.exists_effectiveUrls hs
      have hboth := hrepeated pre nonFreeCatalogUrl mid []
      rw [List.append_nil, List.append_nil] at hboth
      simp only [Sources.urlsFor, hswitched, hplain]
      exact hboth

/-- The non-free catalog is asked twice, before and after a source that repeats its module. Two
entries of one module are merged alike in one list and in two. -/
theorem merge_composes_switched :
    let t : Transport :=
      ⟨fun url => ⟨0, if url = "a" then
          .got "[\x7b\"name\":\"M\",\"repoUrl\":\"r\"\x7d,\x7b\"name\":\"N\",\"repoUrl\":\"s\"\x7d]"
        else .got "[\x7b\"name\":\"M\",\"repoUrl\":\"r\"\x7d]"⟩,
        fun url => ⟨0, .failed (.unreachable url)⟩⟩
    let s : Sources := ⟨[nonFreeCatalogUrl, "a"], false⟩
    let l := Loader.new .modules
    let switched := l.load t ((s.setNonFree true).urlsFor l.kind)
    let plain := l.load t ((s.setNonFree false).urlsFor l.kind)
    let e : Entry := ⟨.modules, "", "M", "", "", "r", "", "", Entry.visibleFlag, "", "", true⟩
    Catalog.merge [[e], [], [e]] = Catalog.merge [[e, e]] ∧
      nonFreeCatalogUrl ∈ s.urls ∧ (∀ url, (t.text url).begins = 0) ∧
      switched.requests = [.text nonFreeCatalogUrl, .text "a", .text nonFreeCatalogUrl] ∧
      plain.requests = [.text nonFreeCatalogUrl, .text "a"] ∧
      switched.loader = plain.loader ∧ switched.outcome = .listed 2 := by
  intro t s l switched plain e
  obtain ⟨-, -, hflatten, -, hload⟩ := merge_composes
  have hbegins (url : String) : (t.text url).begins = 0 := rfl
  have hmem : nonFreeCatalogUrl ∈ s.urls := List.mem_cons_self
  obtain ⟨hloader, houtcome⟩ := (hload l t hbegins).2 s hmem
  refine ⟨hflatten [[e], [], [e]] [[e, e]] rfl, hmem, hbegins, ?_, ?_, hloader, ?_⟩
  · simp only [switched, Loader.load_eq]
    rfl
  · simp only [plain, Loader.load_eq]
    rfl
  · rw [houtcome]
    decide +kernel

end ModuleCatalog
