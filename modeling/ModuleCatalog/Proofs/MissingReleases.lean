import ModuleCatalog.Download.Request
import ModuleCatalog.Proofs.ArchiveLinks
import ModuleCatalog.Proofs.EarlierSources
import ModuleCatalog.Proofs.ReleaseTags

/-!
How a list tells the entries without a release from the others. The empty download address tells
them apart, and so does the refusal of a download. The version does not: the text that stands for a
missing release can be the tag of a release.
-/
namespace ModuleCatalog

namespace Release

/-- A release as it is read off the addresses and pages of a host: its version can be a tag, and it
has an address. -/
structure Scraped (r : Release) : Prop where
  isTag : IsTag r.version.toList
  zipUrl_ne : r.zipUrl ≠ ""

theorem scraped_of_lookupAssets {t : Transport} {origin repo tag : String} {r : Release}
    (htag : IsTag tag.toList)
    (h : (lookupAssets t origin repo tag).outcome = .found (some r)) : Scraped r := by
  rw [lookupAssets] at h
  cases hpage : (t.text (assetsUrl repo tag)).answer with
  | failed failure => simp [hpage] at h
  | crashed => simp [hpage] at h
  | got page =>
    simp only [hpage, Outcome.found.injEq, Option.map_eq_some_iff] at h
    obtain ⟨path, hpath, rfl⟩ := h
    obtain ⟨cs, hcs, rfl⟩ := Option.map_eq_some_iff.mp hpath
    obtain ⟨harchive, -, -⟩ := exists_of_findArchive? hcs
    have hne : cs ≠ [] := by
      rintro rfl
      cases harchive
    refine ⟨htag, fun hempty => hne ?_⟩
    have hchars := congrArg String.toList hempty
    rw [String.toList_append, String.toList_ofList] at hchars
    exact (List.append_eq_nil_iff.mp hchars).2

theorem isTag_of_extractTag? {location tag : String} (h : extractTag? location = some tag) :
    IsTag tag.toList := by
  obtain ⟨found, hfound, rfl⟩ := Option.map_eq_some_iff.mp h
  rw [String.toList_ofList]
  exact isTag_of_findTag? hfound

/-- Whatever a transport answers, a release that is found on it is one of a tag, with an address. -/
theorem scraped_of_lookup {t : Transport} {origin repoUrl : String} {r : Release}
    (h : (lookup t origin repoUrl).outcome = .found (some r)) : Scraped r := by
  rw [lookup] at h
  split at h
  · cases h
  · cases hlocation : (t.location (latestUrl (Text.dropTrailingSlashes repoUrl))).answer with
    | crashed => simp [hlocation] at h
    | failed failure => simp [hlocation] at h
    | got location =>
      cases htag : location.bind extractTag? with
      | none => simp [hlocation, htag] at h
      | some tag =>
        simp only [hlocation, htag] at h
        obtain ⟨address, -, hread⟩ := Option.bind_eq_some_iff.mp htag
        exact scraped_of_lookupAssets (isTag_of_extractTag? hread) h

/-- A tag holds no blank, so that it is not the text that a list shows for a missing release. -/
theorem Scraped.version_ne {r : Release} (h : Scraped r) : r.version ≠ "no release" := by
  intro heq
  have hblank : isTagChar ' ' = true := h.isTag.2 ' ' (by rw [heq]; decide)
  revert hblank
  decide

end Release

namespace Entry

/-- What an entry tells of the release that was looked up for it. Its address and the answer to a
download tell whether there is one. Its version, and what a list shows for it, tell so unless the
version of the release is the text that stands for none. -/
structure Tells (e : Entry) (release : Option Release) : Prop where
  isLoading_eq : e.isLoading = false
  url_iff : e.downloadUrl = "" ↔ release = none
  refused_iff : Download.order e = .error (.notDownloadable e.name) ↔ release = none
  ordered : ∀ r, release = some r → Download.order e = .ok ⟨e.name, r.zipUrl, e.fileName⟩
  version_iff : e.latestVersion = noVersion ↔
    release = none ∨ release.map Release.version = some noVersion
  shown_iff : CommandLine.versionShown e = "no release" ↔ e.latestVersion = noVersion

theorem versionShown_iff {e : Entry} (hloading : e.isLoading = false)
    (hversion : e.latestVersion ≠ "no release") :
    CommandLine.versionShown e = "no release" ↔ e.latestVersion = noVersion := by
  by_cases hnone : e.latestVersion = noVersion
  · simp [CommandLine.versionShown, hloading, hnone]
  · simp [CommandLine.versionShown, hloading, hnone, hversion]

theorem tells_resolved (e : Entry) {release : Option Release}
    (h : ∀ r, release = some r → r.Scraped) : (e.resolved release).Tells release := by
  have hloading := isLoading_resolved e release
  have horder := Download.order_of_url hloading
  cases release with
  | none =>
    have hrefused : Download.order (e.resolved none) = .error (.notDownloadable e.name) := horder
    have hshown := versionShown_iff hloading (show noVersion ≠ "no release" by decide)
    exact ⟨hloading, iff_of_true rfl rfl, iff_of_true hrefused rfl, nofun,
      iff_of_true rfl (.inl rfl), hshown⟩
  | some r =>
    have hscraped := h r rfl
    have hurl : (e.resolved (some r)).downloadUrl ≠ "" := hscraped.zipUrl_ne
    rw [if_neg hurl] at horder
    refine ⟨hloading, iff_of_false hurl nofun, iff_of_false ?_ nofun, ?_, ?_, ?_⟩
    · rw [horder]
      exact nofun
    · intro r' hr
      obtain rfl : r = r' := Option.some.inj hr
      exact horder
    · simp [resolved]
    · exact versionShown_iff hloading hscraped.version_ne

end Entry

namespace Session

/-- An entry of a list that is no longer loading has taken the answer of its own task. -/
theorem answered_of_ready {kind : Kind} {turns : List Turn} {generation i : Nat} {e : Entry}
    {list : List Entry}
    (hready : ((new kind).run turns).board.snapshot = ⟨generation, .ready list⟩)
    (hi : list[i]? = some e) (hloading : e.isLoading = false) :
    ∃ j t resolver release, ((new kind).run turns).tasks[j]? = some t ∧
      (tasksOf generation ((new kind).run turns).tasks)[i]? = some t ∧
      t.status = .done release ∧ Started kind turns j resolver ∧
      (resolver e.repoUrl).outcome = .found release ∧ e = t.entry.resolved release := by
  obtain ⟨placeholders, hpublished⟩ := exists_published hready
  have hentries := map_entry_of_published hpublished
  have hlength : list.length = placeholders.length := by
    rw [← faithful_run kind turns generation list hready, ← hentries, List.length_map,
      List.length_map]
  obtain ⟨p, hp⟩ : ∃ p, placeholders[i]? = some p := by
    have hlt : i < list.length := (List.getElem?_eq_some_iff.mp hi).1
    exact ⟨_, List.getElem?_eq_getElem (hlength ▸ hlt)⟩
  have hentry : ((tasksOf generation ((new kind).run turns).tasks).map Task.entry)[i]? = some p := by
    rw [hentries, hp]
  obtain ⟨j, t, hj, ht, hcase⟩ := entry_of_ready hready hentry
  have htp : t.entry = p := by
    rw [List.getElem?_map, ht] at hentry
    exact Option.some.inj hentry
  rcases hcase with ⟨-, hlist⟩ | ⟨resolver, release, hdone, hstarted, hfound, hlist⟩
  · obtain rfl : p = e := Option.some.inj (hlist.symm.trans hi)
    have hplaceholder := (hpublished.placeholder (List.mem_of_getElem? hp)).2
    rw [hloading] at hplaceholder
    cases hplaceholder
  · have he : e = p.resolved release := Option.some.inj (hi.symm.trans hlist)
    have hrepo : e.repoUrl = p.repoUrl := by
      rw [he]
      cases release <;> rfl
    refine ⟨j, t, resolver, release, hj, ht, hdone, hstarted, ?_, ?_⟩
    · rw [hrepo, hfound]
    · rw [he, htp]

end Session

namespace CommandLine

/-- A catalog that was loaded with its lookups has every entry resolved by the lookup of its own
repository. -/
theorem resolved_of_loadCatalog {w : World} {client : Client} {sources : Sources} {kind : Kind}
    {entries : List Entry}
    (h : (loadCatalog w client sources kind true).entries = .ok entries) {e : Entry}
    (he : e ∈ entries) :
    ∃ (listed : Entry) (release : Option Release),
      (Release.lookup (Http.transport w.network) client.origin e.repoUrl).outcome = .found release ∧
        e = listed.resolved release := by
  let t := Http.transport w.network
  by_cases hmerged : mergeFetched (fetchAll t kind (sources.urlsFor kind)) = []
  · have hnone : Loader.beginsMeanwhile t (sources.urlsFor kind) = 0 := by
      simp [Loader.beginsMeanwhile, t, Http.transport]
    have hload := Loader.load_nothing (l := Loader.new kind) hnone hmerged
    simp only [loadCatalog] at h
    rw [hload] at h
    cases h
  · have hentries := entries_loadCatalog w client sources kind hmerged
    obtain rfl : _ = entries := Except.ok.inj (hentries.symm.trans h)
    obtain ⟨listed, -, rfl⟩ := List.mem_map.mp he
    refine ⟨listed.placeholder, ?_⟩
    cases ho : (Release.lookup t client.origin listed.repoUrl).outcome with
    | crashed => exact absurd ho (Http.lookup_transport_ne_crashed _ _ _)
    | found release =>
      have hsettled : listed.settled (Release.lookup t client.origin) =
          listed.placeholder.resolved release := by
        rw [Entry.settled, ho]
      refine ⟨release, ?_, hsettled⟩
      rw [hsettled, ← ho]
      cases release <;> rfl

end CommandLine

/-- Where every lookup of a run asked some transport for the release, each entry of a list that is
up and no longer loading tells what its own lookup found, and so does each entry of the catalog that
a command lists or downloads from: its address is empty exactly if there is no release, exactly then
a download is refused, and its version is the one that stands for none exactly if there is no
release or one that is tagged so. -/
theorem missing_releases_told (kind : Kind) (turns : List Turn) (generation : Nat)
    (list : List Entry)
    (hready : ((Session.new kind).run turns).board.snapshot = ⟨generation, .ready list⟩)
    (hlookups : ∀ j resolver, Session.Started kind turns j resolver →
      ∃ t origin, resolver = Release.lookup t origin) :
    (∀ (i : Nat) (e : Entry), list[i]? = some e → e.isLoading = false →
      ∃ j t resolver release, ((Session.new kind).run turns).tasks[j]? = some t ∧
        (tasksOf generation ((Session.new kind).run turns).tasks)[i]? = some t ∧
        Session.Started kind turns j resolver ∧ (resolver e.repoUrl).outcome = .found release ∧
        e = t.entry.resolved release ∧ e.Tells release) ∧
    ∀ (w : CommandLine.World) (client : Client) (sources : Sources) (entries : List Entry),
      (CommandLine.loadCatalog w client sources kind true).entries = .ok entries →
        ∀ e ∈ entries, ∃ release,
          (Release.lookup (Http.transport w.network) client.origin e.repoUrl).outcome =
            .found release ∧ e.Tells release := by
  constructor
  · intro i e hi hloading
    obtain ⟨j, t, resolver, release, hj, ht, -, hstarted, hfound, he⟩ :=
      Session.answered_of_ready hready hi hloading
    obtain ⟨transport, origin, rfl⟩ := hlookups j resolver hstarted
    refine ⟨j, t, _, release, hj, ht, hstarted, hfound, he, ?_⟩
    rw [he]
    apply Entry.tells_resolved
    rintro r rfl
    exact Release.scraped_of_lookup hfound
  · intro w client sources entries hentries e he
    obtain ⟨listed, release, hfound, hresolved⟩ := CommandLine.resolved_of_loadCatalog hentries he
    refine ⟨release, hfound, ?_⟩
    rw [hresolved]
    apply Entry.tells_resolved
    rintro r rfl
    exact Release.scraped_of_lookup hfound

/-! Two modules are listed and looked up. The latest release of the first one has the given tag, and
the second one has none. -/

def taggedHost (tag : String) : Transport :=
  .answering
    (fun url =>
      if url = "u" then
        .got "[\x7b\"name\":\"M\",\"repoUrl\":\"r\"\x7d,\x7b\"name\":\"N\",\"repoUrl\":\"s\"\x7d]"
      else .got "href=\"/o/releases/download/1/m.zip\"")
    (fun url => .got (if url = "r/releases/latest" then some ("/tag/" ++ tag) else none))

def taggedTurns (tag : String) : List Turn :=
  let resolver := Release.lookup (taggedHost tag) ""
  [.openLoad ["u"], .closeLoad 0 (taggedHost tag), .startTask 1 resolver, .startTask 0 resolver,
    .advanceTask 1, .advanceTask 0, .advanceTask 0, .advanceTask 1, .advanceTask 0]

theorem started_taggedTurns {tag : String} {j : Nat} {resolver : Release.Resolver}
    (h : Session.Started .modules (taggedTurns tag) j resolver) :
    resolver = Release.lookup (taggedHost tag) "" := by
  obtain ⟨before, after, u, hturns, -⟩ := h
  have hm : .startTask j resolver ∈ taggedTurns tag := by simp [hturns]
  simp only [taggedTurns, List.mem_cons, List.not_mem_nil, or_false, reduceCtorEq,
    false_or, Turn.startTask.injEq] at hm
  exact hm.elim (·.2) (·.2)

theorem missing_releases_told_plain :
    let m : Entry := ⟨.modules, "", "M", "", "", "r", "", "", 1, "1",
      "/o/releases/download/1/m.zip", false⟩
    let n : Entry := ⟨.modules, "", "N", "", "", "s", "", "", 1, Entry.noVersion, "", false⟩
    ((Session.new .modules).run (taggedTurns "1")).board.snapshot = ⟨1, .ready [m, n]⟩ ∧
      ∃ release, m.Tells (some release) ∧ n.Tells none := by
  intro m n
  have hready : ((Session.new .modules).run (taggedTurns "1")).board.snapshot =
      ⟨1, .ready [m, n]⟩ := by
    decide +kernel
  obtain ⟨htold, -⟩ := missing_releases_told .modules (taggedTurns "1") 1 [m, n] hready
    fun j resolver h => ⟨_, _, started_taggedTurns h⟩
  obtain ⟨-, -, -, first, -, -, -, -, -, hfirst⟩ := htold 0 m rfl rfl
  obtain ⟨-, -, -, second, -, -, -, -, -, hsecond⟩ := htold 1 n rfl rfl
  obtain rfl : second = none := hsecond.url_iff.mp rfl
  obtain ⟨release, rfl⟩ : ∃ release, first = some release := by
    cases first with
    | none => exact absurd (hfirst.url_iff.mpr rfl) (by decide)
    | some release => exact ⟨release, rfl⟩
  exact ⟨hready, release, hfirst, hsecond⟩

/-- A release that is tagged "null" is shown as no release, and can be downloaded. -/
theorem release_hidden_by_tag :
    let turns := taggedTurns Entry.noVersion
    let m : Entry := ⟨.modules, "", "M", "", "", "r", "", "", 1, Entry.noVersion,
      "/o/releases/download/1/m.zip", false⟩
    (∃ n, ((Session.new .modules).run turns).board.snapshot = ⟨1, .ready [m, n]⟩) ∧
      (∀ j resolver, Session.Started .modules turns j resolver →
        (resolver m.repoUrl).outcome = .found (some ⟨Entry.noVersion, m.downloadUrl⟩)) ∧
      m.isLoading = false ∧ m.latestVersion = Entry.noVersion ∧
      CommandLine.versionShown m = "no release" ∧ m.downloadUrl ≠ "" ∧
      Download.order m = .ok ⟨"M", m.downloadUrl, "M_null.zip"⟩ := by
  intro turns m
  refine ⟨⟨⟨.modules, "", "N", "", "", "s", "", "", 1, Entry.noVersion, "", false⟩, ?_⟩, ?_, rfl, rfl,
    rfl, by decide, by decide⟩
  · decide +kernel
  · intro j resolver hstarted
    rw [started_taggedTurns hstarted]
    decide +kernel

end ModuleCatalog
