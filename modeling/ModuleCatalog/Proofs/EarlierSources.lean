import ModuleCatalog.CommandLine.Run
import ModuleCatalog.Proofs.SavedDownloads
import ModuleCatalog.Proofs.SettledLists

/-!
What a later source cannot do: whatever it holds, it takes no place in the list before the entries
of earlier sources, and a download by a name that an earlier source answers to gets the entry of the
earlier source, with the release of that entry's own repository.
-/
namespace ModuleCatalog

/-- The transport whose answers depend on the address alone. -/
def Transport.answering (text : String → Answer String)
    (location : String → Answer (Option String)) : Transport where
  text url := ⟨0, text url⟩
  location url := ⟨0, location url⟩

theorem begins_lookup_answering (text : String → Answer String)
    (location : String → Answer (Option String)) (origin repo : String) :
    (Release.lookup (.answering text location) origin repo).begins = 0 := by
  simp only [Release.lookup]
  split
  · rfl
  · simp only [Transport.answering]
    split
    · rfl
    · rfl
    · split <;> rfl

namespace Release

variable {t : Transport}

theorem lookupAssets_ne_crashed (htext : ∀ url, (t.text url).answer ≠ .crashed)
    (origin repo tag : String) : (lookupAssets t origin repo tag).outcome ≠ .crashed := by
  rw [lookupAssets]
  cases hpage : (t.text (assetsUrl repo tag)).answer with
  | got page => simp
  | failed failure => simp
  | crashed => exact absurd hpage (htext _)

/-- A lookup crashes only where a request does. -/
theorem lookup_ne_crashed (htext : ∀ url, (t.text url).answer ≠ .crashed)
    (hlocation : ∀ url, (t.location url).answer ≠ .crashed) (origin repoUrl : String) :
    (lookup t origin repoUrl).outcome ≠ .crashed := by
  rw [lookup]
  by_cases hrepo : (Text.dropTrailingSlashes repoUrl).isEmpty = true
  · simp [hrepo]
  · cases hanswer : (t.location (latestUrl (Text.dropTrailingSlashes repoUrl))).answer with
    | crashed => exact absurd hanswer (hlocation _)
    | failed failure => simp [hrepo, hanswer]
    | got location =>
      cases htag : location.bind extractTag? with
      | none => simp [hrepo, hanswer, htag]
      | some tag => simpa [hrepo, hanswer, htag] using lookupAssets_ne_crashed htext origin _ tag

end Release

namespace Http

variable (net : Network)

theorem text_ne_crashed (url : String) : text net url ≠ .crashed := by
  rw [text]
  cases net.get url with
  | none => simp
  | some r =>
    by_cases hstatus : isSuccess r.status = true
    · cases htext : r.text <;> simp [hstatus, htext]
    · simp [hstatus]

theorem location_ne_crashed (url : String) : location net url ≠ .crashed := by
  rw [location]
  cases net.getDirect url <;> simp

theorem lookup_transport_ne_crashed (origin repoUrl : String) :
    (Release.lookup (transport net) origin repoUrl).outcome ≠ .crashed :=
  Release.lookup_ne_crashed (text_ne_crashed net) (location_ne_crashed net) origin repoUrl

end Http

theorem mergeFetched_append (t : Transport) (kind : Kind) (pre post : List String) :
    mergeFetched (fetchAll t kind pre) <+: mergeFetched (fetchAll t kind (pre ++ post)) := by
  rw [mergeFetched, mergeFetched, fetchAll, fetchAll, List.map_append, List.map_append]
  exact Catalog.merge_prefix_append _ _

namespace CommandLine

variable {wantsMeta : Bool} {name : String}

/-- The end of a lookup does not change which entry a name means. -/
theorem selected?_settled (resolver : Release.Resolver) (entries : List Entry) :
    selected? wantsMeta name (entries.map (Entry.settled resolver)) =
      (selected? wantsMeta name entries).map (Entry.settled resolver) := by
  rw [selected?, selected?, List.find?_map]
  congr 2
  funext e
  rw [Function.comp_apply, Entry.name_settled, Entry.id_settled]

theorem selected?_of_prefix {entries more : List Entry} (h : entries <+: more) {e : Entry}
    (he : selected? wantsMeta name entries = some e) : selected? wantsMeta name more = some e := by
  obtain ⟨rest, rfl⟩ := h
  unfold selected? at he ⊢
  rw [List.find?_append, he, Option.some_or]

theorem exists_selected? {entries : List Entry}
    (h : ∃ e ∈ entries, Text.lowerAscii e.name = Text.lowerAscii name ∨
      wantsMeta = true ∧ e.id = name) :
    ∃ e, selected? wantsMeta name entries = some e := by
  rw [← Option.isSome_iff_exists, selected?, List.find?_isSome]
  simpa using h

/-- With its lookups, the catalog of a command is the merged list, settled. -/
theorem entries_loadCatalog (w : World) (client : Client) (sources : Sources) (kind : Kind) :
    let t := Http.transport w.network
    let merged := mergeFetched (fetchAll t kind (sources.urlsFor kind))
    merged ≠ [] → (loadCatalog w client sources kind true).entries =
      .ok (merged.map (Entry.settled (Release.lookup t client.origin))) := by
  intro t merged hmerged
  have hsources (url : String) : (t.text url).begins = 0 := rfl
  have hlookups (repo : String) : (Release.lookup t client.origin repo).begins = 0 :=
    begins_lookup_answering _ _ _ _
  have houtcome := (Loader.load_new_listed hsources hmerged).1
  have hwait := Loader.wait_load hsources hlookups hmerged
  simp only [loadCatalog]
  rw [houtcome]
  simp only [if_true]
  rw [hwait]
  rfl

/-- What a download leaves apart from what it said on the way, once it is known which entry its name
means. -/
theorem runDownload_congr {w : World} {client : Client} {sources sources' : Sources}
    {entries entries' : List Entry} (output : String)
    (h : (loadCatalog w client sources (kindFor wantsMeta) true).entries = .ok entries)
    (h' : (loadCatalog w client sources' (kindFor wantsMeta) true).entries = .ok entries')
    (hselected : selected? wantsMeta name entries = selected? wantsMeta name entries') :
    { runDownload w client sources name wantsMeta output with progress := [] } =
      { runDownload w client sources' name wantsMeta output with progress := [] } := by
  unfold runDownload withCatalog
  split
  · rfl
  · split
    · rfl
    · simp only [h, h', hselected]
      cases selected? wantsMeta name entries' with
      | none => rfl
      | some e =>
        simp only
        split
        · rfl
        · split <;> rfl

/-- What becomes of the file of an entry that is ordered from the address of the entry. -/
def savedFor (w : World) (output : String) (e : Entry) : Download.Saved FileTree :=
  Download.save FileTree.system w.network w.files output ⟨e.name, e.downloadUrl, e.fileName⟩

/-- The line that names an entry and its version before anything is saved. -/
def announcement (e : Entry) (output : String) : String :=
  "Downloading " ++ e.name ++ " " ++ e.latestVersion ++ " to " ++ output ++ "...\n"

/-- What a command leaves that downloads an entry: without an address the entry is refused, and
otherwise its file is ordered from there and is reported, or why it could not be saved. -/
inductive Downloads (w : World) (output : String) (e : Entry) : Outcome → Prop where
  | refused (progress : List String) (hurl : e.downloadUrl = "") :
    Downloads w output e ⟨1, announcement e output,
      some ("Module '" ++ e.name ++ "' has no downloadable release"), progress, w.files⟩
  | failed (progress : List String) (error : Download.SaveError) (hurl : e.downloadUrl ≠ "")
    (hfailed : (savedFor w output e).artifact = .error error) :
    Downloads w output e ⟨1, announcement e output, some error.message, progress,
      (savedFor w output e).files⟩
  | saved (progress : List String) (a : Download.Artifact) (hurl : e.downloadUrl ≠ "")
    (hsaved : (savedFor w output e).artifact = .ok a) :
    Downloads w output e ⟨0, announcement e output ++ artifactReport a, none, progress,
      (savedFor w output e).files⟩

/-- A command that knows its entry downloads it. -/
theorem downloads_runDownload {w : World} {client : Client} {sources : Sources} {entries : List Entry}
    {e : Entry} (output : String) (husable : client.isUsable = true)
    (hlimit : client.canLimit = true)
    (hload : (loadCatalog w client sources (kindFor wantsMeta) true).entries = .ok entries)
    (hselected : selected? wantsMeta name entries = some e) (hloading : e.isLoading = false) :
    Downloads w output e (runDownload w client sources name wantsMeta output) := by
  have horder := Download.order_of_url hloading
  rw [runDownload, withCatalog, husable, hlimit]
  simp only [Bool.not_true, Bool.false_eq_true, if_false, hload, hselected, Download.dispatch]
  by_cases hurl : e.downloadUrl = ""
  · rw [if_pos hurl] at horder
    rw [horder]
    exact .refused _ hurl
  · rw [if_neg hurl] at horder
    simp only [horder, Download.Gate.acquire_free]
    cases hsaved : (savedFor w output e).artifact with
    | error error =>
      have hcall := hsaved
      rw [savedFor] at hcall
      simp only [hcall]
      exact .failed _ error hurl hsaved
    | ok a =>
      have hcall := hsaved
      rw [savedFor] at hcall
      simp only [hcall]
      exact .saved _ a hurl hsaved

end CommandLine

open CommandLine in
/-- If a name means an entry of the sources that come first, then it means the same entry, with the
same release, whatever sources follow: in every list that a load leaves once its tasks have ended,
in whatever order they did, in the list of a load that is waited for, and in a download, which
announces that entry and orders its file. -/
theorem earlier_sources_decide (kind : Kind) (text : String → Answer String)
    (location : String → Answer (Option String)) (origin : String) (pre : List String)
    (wantsMeta : Bool) (name : String)
    (h : ∃ e ∈ mergeFetched (fetchAll (.answering text location) kind pre),
      Text.lowerAscii e.name = Text.lowerAscii name ∨ wantsMeta = true ∧ e.id = name) :
    let t : Transport := .answering text location
    let resolver := Release.lookup t origin
    let merged (urls : List String) := mergeFetched (fetchAll t kind urls)
    ∃ listed, selected? wantsMeta name (merged pre) = some listed ∧ ∀ post,
      let chosen := listed.settled resolver
      merged pre <+: merged (pre ++ post) ∧
      (∀ turns list, Session.Completed kind t origin (pre ++ post) turns list →
        list = (merged (pre ++ post)).map (Entry.settled resolver) ∧
          selected? wantsMeta name list = some chosen) ∧
      (∃ list, (((Loader.new kind).load t (pre ++ post)).loader.wait resolver).1.board.snapshot =
          ⟨1, .ready list⟩ ∧ selected? wantsMeta name list = some chosen) ∧
      ∀ (w : World) (client : Client) (sources : Sources) (output : String),
        Http.transport w.network = t → client.origin = origin → kindFor wantsMeta = kind →
        sources.urlsFor kind = pre ++ post →
          (client.isUsable = true → client.canLimit = true →
            Downloads w output chosen (runDownload w client sources name wantsMeta output)) ∧
          ∀ (sources' : Sources) (post' : List String), sources'.urlsFor kind = pre ++ post' →
            { runDownload w client sources name wantsMeta output with progress := [] } =
              { runDownload w client sources' name wantsMeta output with progress := [] } := by
  intro t resolver merged
  obtain ⟨e, he⟩ := exists_selected? h
  have hselected (post : List String) : selected? wantsMeta name (merged (pre ++ post)) = some e :=
    selected?_of_prefix (mergeFetched_append t kind pre post) he
  have hsettled (post : List String) : selected? wantsMeta name
      ((merged (pre ++ post)).map (Entry.settled resolver)) = some (e.settled resolver) := by
    rw [selected?_settled, hselected, Option.map_some]
  have hmerged (post : List String) : merged (pre ++ post) ≠ [] := by
    intro hnil
    have hnone := hselected post
    rw [hnil] at hnone
    cases hnone
  refine ⟨e, he, fun post => ⟨mergeFetched_append t kind pre post, ?_, ?_, ?_⟩⟩
  · intro turns list hcompleted
    rw [hcompleted.list_eq]
    exact ⟨rfl, hsettled post⟩
  · exact ⟨_, Loader.wait_load (fun _ => rfl) (begins_lookup_answering _ _ _) (hmerged post),
      hsettled post⟩
  · rintro w client sources output ht rfl rfl hsources
    have hload := entries_loadCatalog w client sources (kindFor wantsMeta)
    simp only [ht, hsources] at hload
    constructor
    · intro husable hlimit
      refine downloads_runDownload output husable hlimit (hload (hmerged post)) (hsettled post) ?_
      have hanswered := Http.lookup_transport_ne_crashed w.network client.origin e.repoUrl
      rw [ht] at hanswered
      exact Entry.isLoading_settled hanswered
    · intro sources' post' hsources'
      have hload' := entries_loadCatalog w client sources' (kindFor wantsMeta)
      simp only [ht, hsources'] at hload'
      refine runDownload_congr output (hload (hmerged post)) (hload' (hmerged post')) ?_
      exact (hsettled post).trans (hsettled post').symm

/-! The second source repeats the module of the first under its name in other letters, from another
repository, and its lookup ends first. -/

def firstCatalog : String := "https://a.test/m.json"

def secondCatalog : String := "https://b.test/m.json"

def page (text : String) : Option Http.Response :=
  some ⟨200, none, some text.toUTF8, some text⟩

def contestedHost : Http.Network where
  get url :=
    if url = firstCatalog then page "[\x7b\"name\":\"M\",\"repoUrl\":\"https://h.test/r\"\x7d]"
    else if url = secondCatalog then page "[\x7b\"name\":\"m\",\"repoUrl\":\"https://h.test/s\"\x7d]"
    else if url = "https://github.com/r/releases/download/1/m.zip" then page "abc"
    else if url = "https://h.test/r/releases/expanded_assets/1" then
      page "href=\"/r/releases/download/1/m.zip\""
    else page "href=\"/s/releases/download/2/m.zip\""
  getDirect url :=
    if url = "https://h.test/r/releases/latest" then some ⟨302, some "/tag/1", none, none⟩
    else some ⟨302, some "/tag/2", none, none⟩

def contestedTurns : List Turn :=
  let t := Http.transport contestedHost
  let resolver := Release.lookup t defaultOrigin
  [.openLoad [firstCatalog, secondCatalog], .closeLoad 0 t, .startTask 1 resolver,
    .startTask 0 resolver, .advanceTask 1, .advanceTask 1, .advanceTask 1, .advanceTask 0,
    .advanceTask 0, .advanceTask 0]

/-- The file of the first module is ordered from its own repository, and saved. -/
theorem savedFor_contested (own : Entry) (hname : own.name = "M") (hversion : own.latestVersion = "1")
    (hurl : own.downloadUrl = "https://github.com/r/releases/download/1/m.zip") :
    (CommandLine.savedFor ⟨contestedHost, .empty, "sources.yaml"⟩ "out" own).artifact =
      .ok ⟨"out/M_1.zip", 3,
        "sha256:ba7816bf8f01cfea414140de5dae2223b00361a396177a9cb410ff61f20015ad"⟩ := by
  let made := FileTree.empty.put ["out"] .directory
  have hlast : Download.baseName? own.fileName = some "M_1.zip" := by
    rw [Entry.fileName, hname, hversion]
    decide +kernel
  have hreceived : Download.receive contestedHost ⟨own.name, own.downloadUrl, own.fileName⟩ =
      .ok "abc".toUTF8 := by
    rw [hurl]
    rfl
  have hmade : FileTree.empty.makeDirectories "out" = (made, none) :=
    (FileTree.Passes.made (FileTree.get?_empty ["out"])).makeDirectories (by decide +kernel)
      (by decide +kernel) (by decide +kernel) (by decide +kernel)
  have hcan : Download.CanStore .empty "out" "M_1.zip" := by
    refine ⟨by decide +kernel, by decide +kernel, by decide +kernel, ?_, ?_⟩
    · exact (FileTree.makeDirectories_eq_none_iff.mp (congrArg Prod.snd hmade)).2.2
    · have hplace : made.get? ["out", "M_1.zip"] = none := by
        rw [FileTree.get?_put_of_ne _ _ (by decide)]
        exact FileTree.get?_empty _
      rw [hmade]
      change made.isDirectory ["out", "M_1.zip"] = false
      rw [FileTree.isDirectory, hplace]
  have hwrite := (Download.write?_inDirectory_iff (Download.baseName?_eq_some_iff.mp hlast).1 hmade
    "abc".toUTF8).mpr ⟨hcan, rfl⟩
  have hstored := Download.store_written hlast (FileTree.makeDirectories_system_iff.mpr hmade) hwrite
  have hartifact : (⟨Download.inDirectory "out" "M_1.zip", "abc".toUTF8.size,
      Digest.sha256Name "abc".toUTF8⟩ : Download.Artifact) = ⟨"out/M_1.zip", 3,
        "sha256:ba7816bf8f01cfea414140de5dae2223b00361a396177a9cb410ff61f20015ad"⟩ := by
    decide +kernel
  rw [CommandLine.savedFor, Download.save, hreceived]
  simp only [hstored, hartifact]

theorem earlier_sources_decide_contested :
    let t := Http.transport contestedHost
    let own : Entry := ⟨.modules, "", "M", "", "", "https://h.test/r", "", "", 1, "1",
      "https://github.com/r/releases/download/1/m.zip", false⟩
    let other : Entry := ⟨.modules, "", "m", "", "", "https://h.test/s", "", "", 1, "2",
      "https://github.com/s/releases/download/2/m.zip", false⟩
    let w : CommandLine.World := ⟨contestedHost, .empty, "sources.yaml"⟩
    let left := CommandLine.runDownload w .default ⟨[firstCatalog, secondCatalog], false⟩ "m" false "out"
    (∃ e ∈ mergeFetched (fetchAll t .modules [firstCatalog]),
      Text.lowerAscii e.name = Text.lowerAscii "m" ∨ false = true ∧ e.id = "m") ∧
    Session.Completed .modules t defaultOrigin ([firstCatalog] ++ [secondCatalog]) contestedTurns
      [own, other] ∧
    CommandLine.selected? false "m" [own, other] = some own ∧
    CommandLine.Downloads w "out" own left ∧ left.exit = 0 ∧
    left.output = "Downloading M 1 to out...\nSaved:   out/M_1.zip\nSize:    3 bytes\n" ++
      "Digest:  sha256:ba7816bf8f01cfea414140de5dae2223b00361a396177a9cb410ff61f20015ad\n" := by
  intro t own other w left
  have h : ∃ e ∈ mergeFetched (fetchAll t .modules [firstCatalog]),
      Text.lowerAscii e.name = Text.lowerAscii "m" ∨ false = true ∧ e.id = "m" := by
    decide +kernel
  have hlookups (j : Nat) (resolver : Release.Resolver)
      (hs : Session.Started .modules contestedTurns j resolver) :
      resolver = Release.lookup t defaultOrigin := by
    obtain ⟨before, after, u, hturns, -⟩ := hs
    have hm : .startTask j resolver ∈ contestedTurns := by simp [hturns]
    simp only [contestedTurns, List.mem_cons, List.not_mem_nil, or_false, reduceCtorEq,
      false_or, Turn.startTask.injEq] at hm
    exact hm.elim (·.2) (·.2)
  have hcompleted : Session.Completed .modules t defaultOrigin ([firstCatalog] ++ [secondCatalog])
      contestedTurns [own, other] :=
    ⟨[.openLoad [firstCatalog, secondCatalog]], 0, contestedTurns.drop 2, 1,
      [own, other].map Entry.placeholder, rfl, by decide +kernel, by decide +kernel,
      by decide +kernel, hlookups, by decide +kernel⟩
  obtain ⟨listed, -, hchosen⟩ := earlier_sources_decide .modules (Http.text contestedHost)
    (Http.location contestedHost) defaultOrigin [firstCatalog] false "m" h
  obtain ⟨-, hturns, -, hcommand⟩ := hchosen [secondCatalog]
  have hselected := (hturns contestedTurns [own, other] hcompleted).2
  have hown : CommandLine.selected? false "m" [own, other] = some own := by decide +kernel
  obtain ⟨hdownloads, -⟩ :=
    hcommand w .default ⟨[firstCatalog, secondCatalog], false⟩ "out" rfl rfl rfl rfl
  rw [Option.some.inj (hselected.symm.trans hown)] at hdownloads
  have hleft : CommandLine.Downloads w "out" own left :=
    hdownloads (by decide +kernel) (by decide +kernel)
  have hsaved := savedFor_contested own rfl rfl rfl
  refine ⟨h, hcompleted, hown, hleft, ?_⟩
  generalize left = left at hleft ⊢
  cases hleft with
  | refused progress hurl => exact absurd hurl (by decide)
  | failed progress error hurl hfailed => cases hfailed.symm.trans hsaved
  | saved progress a hurl hreported =>
    obtain rfl := Except.ok.inj (hreported.symm.trans hsaved)
    have hprinted : CommandLine.announcement own "out" ++ CommandLine.artifactReport ⟨"out/M_1.zip", 3,
        "sha256:ba7816bf8f01cfea414140de5dae2223b00361a396177a9cb410ff61f20015ad"⟩ =
        "Downloading M 1 to out...\nSaved:   out/M_1.zip\nSize:    3 bytes\n" ++
          "Digest:  sha256:ba7816bf8f01cfea414140de5dae2223b00361a396177a9cb410ff61f20015ad\n" := by
      decide +kernel
    exact ⟨rfl, hprinted⟩

end ModuleCatalog
