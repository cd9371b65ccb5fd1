import ModuleCatalog.Proofs.DisplayOrder
import ModuleCatalog.Proofs.Reconciliation

/-!
What is shown of a cycle while its releases arrive. Neither the order nor a search reads what a
lookup changes, and the listing keeps every entry at its place, so that the same modules are shown
in the same order from the published list on.
-/
namespace ModuleCatalog

namespace Entry

/-- The second entry is the first one, up to what a lookup of its release changes. -/
def SameModule (e e' : Entry) : Prop :=
  ∃ version url loading,
    e' = { e with latestVersion := version, downloadUrl := url, isLoading := loading }

theorem sameModule_iff {e e' : Entry} : e.SameModule e' ↔ e.placeholder = e'.placeholder := by
  constructor
  · rintro ⟨version, url, loading, rfl⟩
    rfl
  · intro h
    refine ⟨e'.latestVersion, e'.downloadUrl, e'.isLoading, ?_⟩
    calc e' = { e'.placeholder with
          latestVersion := e'.latestVersion, downloadUrl := e'.downloadUrl,
          isLoading := e'.isLoading } := rfl
      _ = _ := by rw [← h]; rfl

@[simp]
theorem placeholder_resolved (e : Entry) (r : Option Release) :
    (e.resolved r).placeholder = e.placeholder := by
  cases r <;> rfl

end Entry

theorem forall₂_sameModule_iff {entries entries' : List Entry} :
    List.Forall₂ Entry.SameModule entries entries' ↔
      entries.map Entry.placeholder = entries'.map Entry.placeholder := by
  rw [← List.forall₂_eq_eq_eq, List.forall₂_map_left_iff, List.forall₂_map_right_iff]
  exact ⟨.imp fun _ _ => Entry.sameModule_iff.mp, .imp fun _ _ => Entry.sameModule_iff.mpr⟩

namespace Catalog

/-- What is shown of a list for a query. -/
def displayed (query : String) (entries : List Entry) : List Entry :=
  search (sortByName entries) query

theorem sortByName_map {f : Entry → Entry} (hname : ∀ e, (f e).name = e.name)
    (entries : List Entry) : sortByName (entries.map f) = (sortByName entries).map f := by
  have hkey (e : Entry) : sortKey (f e) = sortKey e := by rw [sortKey, sortKey, hname]
  rw [sortByName_eq, sortByName_eq]
  exact (List.map_mergeSort fun a _ b _ => by rw [hkey, hkey]).symm

/-- A search reads three texts of an entry. -/
theorem answers_congr {e e' : Entry} (hname : e.name = e'.name)
    (hdescription : e.description = e'.description) (hauthor : e.author = e'.author)
    (query : String) : answers query e = answers query e' := by
  rw [answers, answers, isHit, isHit, hname, hdescription, hauthor]

theorem search_map {f : Entry → Entry} {query : String}
    (hanswers : answers query ∘ f = answers query) (entries : List Entry) :
    search (entries.map f) query = (search entries query).map f := by
  rw [search, List.filter_map, hanswers, search]

/-- What is shown for a query depends on the releases only in what is shown of the releases. -/
theorem displayed_map_placeholder (query : String) (entries : List Entry) :
    displayed query (entries.map Entry.placeholder) =
      (displayed query entries).map Entry.placeholder := by
  have hanswers : answers query ∘ Entry.placeholder = answers query := by
    funext e
    rw [Function.comp_apply]
    exact answers_congr rfl rfl rfl query
  rw [displayed, sortByName_map (f := Entry.placeholder) fun _ => rfl, search_map hanswers,
    displayed]

theorem displayed_sameModule {entries entries' : List Entry}
    (h : List.Forall₂ Entry.SameModule entries entries') (query : String) :
    List.Forall₂ Entry.SameModule (displayed query entries) (displayed query entries') := by
  rw [forall₂_sameModule_iff] at h ⊢
  rw [← displayed_map_placeholder, h, displayed_map_placeholder]

end Catalog

@[simp]
theorem Task.placeholder_shown (t : Task) : t.shown.placeholder = t.entry.placeholder := by
  unfold Task.shown
  split <;> simp

namespace Session

/-- A list that is up has the published entries at their places. -/
theorem sameModule_of_published {kind : Kind} {turns : List Turn} {generation : Nat}
    {placeholders list : List Entry} (hp : Published kind turns generation placeholders)
    (hready : ((new kind).run turns).board.snapshot = ⟨generation, .ready list⟩) :
    List.Forall₂ Entry.SameModule placeholders list := by
  rw [forall₂_sameModule_iff, ← faithful_run kind turns generation list hready,
    ← map_entry_of_published hp, List.map_map, List.map_map]
  exact List.map_congr_left fun t _ => (Task.placeholder_shown t).symm

/-- A cycle publishes one list, so that what was up earlier came from the same one. -/
theorem Published.of_ready {kind : Kind} {passed turns : List Turn} {generation : Nat}
    {placeholders list : List Entry} (hp : Published kind turns generation placeholders)
    (hpassed : passed <+: turns)
    (hready : ((new kind).run passed).board.snapshot = ⟨generation, .ready list⟩) :
    Published kind passed generation placeholders := by
  obtain ⟨earlier, hearlier⟩ := exists_published hready
  obtain ⟨after, rfl⟩ := hpassed
  have happend : Published kind (passed ++ after) generation earlier := by
    obtain ⟨before, k, t, between, rfl, h⟩ := hearlier
    exact ⟨before, k, t, between ++ after, by simp, h⟩
  rwa [← (map_entry_of_published happend).symm.trans (map_entry_of_published hp)]

/-- While the list of a cycle is up, the display for a query shows the modules that it showed when
the list was published, in the same order, and of each of them everything but its release is the
same. -/
theorem display_holds_still (kind : Kind) (turns : List Turn) (generation : Nat)
    (placeholders : List Entry) (hpublished : Published kind turns generation placeholders)
    (passed : List Turn) (hpassed : passed <+: turns) (list : List Entry)
    (hready : ((new kind).run passed).board.snapshot = ⟨generation, .ready list⟩) :
    List.Forall₂ Entry.SameModule placeholders list ∧
    ∀ query,
      List.Forall₂ Entry.SameModule (Catalog.displayed query placeholders)
        (Catalog.displayed query list) ∧
      (Catalog.displayed query list).map Entry.identity =
        (Catalog.displayed query placeholders).map Entry.identity := by
  have hlist := sameModule_of_published (hpublished.of_ready hpassed hready) hready
  refine ⟨hlist, fun query => ?_⟩
  have hdisplayed := Catalog.displayed_sameModule hlist query
  have hkeys := congrArg (List.map Entry.identity) (forall₂_sameModule_iff.mp hdisplayed)
  exact ⟨hdisplayed, by simpa [Function.comp_def] using hkeys.symm⟩

/-- Three modules are listed, two of which differ in the case of their names only. The release of
the second one is found, the lookup of the third one crashes, and the first one is given up. -/
def threeModules : List Turn :=
  [.openLoad ["u"],
    .closeLoad 0 ⟨fun _ => ⟨0, .got
        "[\x7b\"name\":\"b\"\x7d,\x7b\"name\":\"B\"\x7d,\x7b\"name\":\"a\"\x7d]"⟩,
      fun _ => ⟨0, .got none⟩⟩,
    .startTask 2 fun _ => ⟨[], 0, .crashed⟩,
    .startTask 1 fun _ => ⟨[], 0, .found (some ⟨"v1", "z"⟩)⟩,
    .advanceTask 1, .advanceTask 2, .cancel]

theorem display_holds_still_threeModules :
    let module (name version url : String) (loading : Bool) : Entry :=
      ⟨.modules, "", name, "", "", "", "", "", 1, version, url, loading⟩
    let placeholders := [module "b" "" "" true, module "B" "" "" true, module "a" "" "" true]
    let list := [module "b" "" "" true, module "B" "v1" "z" false, module "a" "" "" true]
    Published .modules threeModules 1 placeholders ∧
      ((new .modules).run threeModules).board.snapshot = ⟨1, .ready list⟩ ∧
      (Catalog.displayed "B" list).map Entry.identity =
        (Catalog.displayed "B" placeholders).map Entry.identity := by
  intro module placeholders list
  have hpublished : Published .modules threeModules 1 placeholders :=
    ⟨[.openLoad ["u"]], 0, _, _, rfl, ["u"], rfl, List.cons_ne_nil _ _,
      by decide +kernel, by decide +kernel⟩
  have hready : ((new .modules).run threeModules).board.snapshot = ⟨1, .ready list⟩ := by
    decide +kernel
  have hholds := display_holds_still _ _ _ _ hpublished _ (List.prefix_refl _) _ hready
  exact ⟨hpublished, hready, (hholds.2 "B").2⟩

end Session

end ModuleCatalog
