import ModuleCatalog.Proofs.ArchiveLinks
import ModuleCatalog.Proofs.MissingReleases
import ModuleCatalog.Proofs.TrimmedText

/-!
How a lookup of a release goes. Each of its two requests is made only once everything before it went
well, whatever fails means that there is no release, and what is found has the shape of a tag and of
an address of an archive.
-/
namespace ModuleCatalog.Release

section Steps

variable {t : Transport} {repoUrl repo tag : String}

/-- The tag of the address that the latest release of a repository redirects to. -/
def latestTag? (t : Transport) (repo : String) : Option String :=
  match (t.location (latestUrl repo)).answer with
  | .got location => location.bind extractTag?
  | .failed _ | .crashed => none

theorem latestTag?_eq_some_iff :
    latestTag? t repo = some tag ↔
      ∃ location, (t.location (latestUrl repo)).answer = .got (some location) ∧
        extractTag? location = some tag := by
  rw [latestTag?]
  cases (t.location (latestUrl repo)).answer with
  | got location => simp [Option.bind_eq_some_iff]
  | failed failure => simp
  | crashed => simp

theorem lookup_of_no_repo (origin : String) (h : Text.dropTrailingSlashes repoUrl = "") :
    lookup t origin repoUrl = ⟨[], 0, .found none⟩ := by
  rw [lookup, h]
  rfl

/-- A lookup that reads no tag ends after its first request. -/
theorem lookup_of_no_tag (origin : String) (hrepo : Text.dropTrailingSlashes repoUrl ≠ "")
    (h : latestTag? t (Text.dropTrailingSlashes repoUrl) = none) :
    (lookup t origin repoUrl).requests =
        [.location (latestUrl (Text.dropTrailingSlashes repoUrl))] ∧
      ∀ release, (lookup t origin repoUrl).outcome ≠ .found (some release) := by
  have hempty : (Text.dropTrailingSlashes repoUrl).isEmpty = false := by simpa using hrepo
  rw [latestTag?] at h
  cases hanswer : (t.location (latestUrl (Text.dropTrailingSlashes repoUrl))).answer with
  | got location =>
    simp only [hanswer] at h
    simp [lookup, hempty, hanswer, h]
  | failed failure => simp [lookup, hempty, hanswer]
  | crashed => simp [lookup, hempty, hanswer]

theorem lookup_of_tag (origin : String) (hrepo : Text.dropTrailingSlashes repoUrl ≠ "")
    (h : latestTag? t (Text.dropTrailingSlashes repoUrl) = some tag) :
    (lookup t origin repoUrl).requests =
        [.location (latestUrl (Text.dropTrailingSlashes repoUrl)),
          .text (assetsUrl (Text.dropTrailingSlashes repoUrl) tag)] ∧
      (lookup t origin repoUrl).outcome =
        (lookupAssets t origin (Text.dropTrailingSlashes repoUrl) tag).outcome := by
  obtain ⟨location, hlocation, htag⟩ := latestTag?_eq_some_iff.mp h
  exact lookup_located origin hrepo hlocation htag

theorem outcome_lookupAssets_eq_found_iff (origin : String) (release : Release) :
    (lookupAssets t origin repo tag).outcome = .found (some release) ↔
      ∃ page path, (t.text (assetsUrl repo tag)).answer = .got page ∧
        extractArchive? page = some path ∧
        release = ⟨tag, Text.dropTrailingSlashes origin ++ path⟩ := by
  rw [lookupAssets]
  cases (t.text (assetsUrl repo tag)).answer with
  | got page =>
    simp only [Outcome.found.injEq, Option.map_eq_some_iff, Answer.got.injEq]
    constructor
    · rintro ⟨path, hpath, rfl⟩
      exact ⟨page, path, rfl, hpath, rfl⟩
    · rintro ⟨_, path, rfl, hpath, rfl⟩
      exact ⟨path, hpath, rfl⟩
  | failed failure => simp
  | crashed => simp

theorem outcome_lookup_eq_found_iff (origin : String)
    (hrepo : Text.dropTrailingSlashes repoUrl ≠ "") (release : Release) :
    (lookup t origin repoUrl).outcome = .found (some release) ↔
      ∃ tag page path, latestTag? t (Text.dropTrailingSlashes repoUrl) = some tag ∧
        (t.text (assetsUrl (Text.dropTrailingSlashes repoUrl) tag)).answer = .got page ∧
        extractArchive? page = some path ∧
        release = ⟨tag, Text.dropTrailingSlashes origin ++ path⟩ := by
  cases htag : latestTag? t (Text.dropTrailingSlashes repoUrl) with
  | none => simpa using (lookup_of_no_tag origin hrepo htag).2 release
  | some tag =>
    rw [(lookup_of_tag origin hrepo htag).2, outcome_lookupAssets_eq_found_iff]
    simp

/-- There is a release exactly if a tag is read and the page of its assets links an archive. -/
theorem exists_outcome_lookup_iff (origin : String)
    (hrepo : Text.dropTrailingSlashes repoUrl ≠ "") :
    (∃ release, (lookup t origin repoUrl).outcome = .found (some release)) ↔
      ∃ tag page, latestTag? t (Text.dropTrailingSlashes repoUrl) = some tag ∧
        (t.text (assetsUrl (Text.dropTrailingSlashes repoUrl) tag)).answer = .got page ∧
        LinksArchive page.toList := by
  simp only [outcome_lookup_eq_found_iff origin hrepo, ← exists_extractArchive?_iff]
  constructor
  · rintro ⟨release, tag, page, path, htag, hpage, hpath, -⟩
    exact ⟨tag, page, htag, hpage, path, hpath⟩
  · rintro ⟨tag, page, htag, hpage, path, hpath⟩
    exact ⟨_, tag, page, path, htag, hpage, hpath, rfl⟩

/-- The version of a release that is found is a tag, and its address is that of an archive under the
origin. -/
theorem shape_of_lookup {origin : String} {release : Release}
    (h : (lookup t origin repoUrl).outcome = .found (some release)) :
    IsTag release.version.toList ∧
      ∃ path, release.zipUrl = Text.dropTrailingSlashes origin ++ path ∧ '"' ∉ path.toList ∧
        ∃ root name, root ≠ "" ∧ name ≠ "" ∧
          path = "/" ++ root ++ "/releases/download/" ++ name ++ ".zip" := by
  have hrepo : Text.dropTrailingSlashes repoUrl ≠ "" := by
    intro hempty
    rw [lookup_of_no_repo origin hempty] at h
    cases h
  obtain ⟨tag, page, path, htag, -, hpath, rfl⟩ :=
    (outcome_lookup_eq_found_iff origin hrepo release).mp h
  obtain ⟨location, -, hread⟩ := latestTag?_eq_some_iff.mp htag
  exact ⟨isTag_of_extractTag? hread, path, rfl, archive_of_extractArchive? hpath⟩

/-- Slashes at the end of the two addresses make no difference. -/
theorem lookup_append_slashes (t : Transport) (origin repoUrl : String) (m n : Nat) :
    lookup t (origin ++ .ofList (.replicate m '/')) (repoUrl ++ .ofList (.replicate n '/')) =
      lookup t origin repoUrl := by
  simp only [lookup, lookupAssets, Text.dropTrailingSlashes_append_slashes]

end Steps

/-- Without a crash a lookup comes to an answer. It asks nothing without a repository, and else
where the latest release redirects to and then, exactly if a tag is read there, for the page of the
tag's assets. It finds a release exactly if that page comes back and links an archive; the version
is then a tag, and the address is that of the archive under the origin. Slashes at the end of the
repository or of the origin change nothing of this. -/
theorem lookup_answers (t : Transport) (origin repoUrl : String) :
    let repo := Text.dropTrailingSlashes repoUrl
    let found := lookup t origin repoUrl
    let latest := repo ++ "/releases/latest"
    let assets (tag : String) := repo ++ "/releases/expanded_assets/" ++ tag
    let Tagged (tag : String) : Prop := ∃ location,
      (t.location latest).answer = .got (some location) ∧ extractTag? location = some tag
    ((∀ url, (t.text url).answer ≠ .crashed) → (∀ url, (t.location url).answer ≠ .crashed) →
      ∃ release, found.outcome = .found release) ∧
    ((∀ c ∈ repoUrl.toList, c = '/') → found.requests = [] ∧ found.outcome = .found none) ∧
    ((∃ c ∈ repoUrl.toList, c ≠ '/') →
      (∀ tag, Tagged tag → found.requests = [.location latest, .text (assets tag)]) ∧
      ((∀ tag, ¬Tagged tag) → found.requests = [.location latest]) ∧
      ((∃ release, found.outcome = .found (some release)) ↔
        ∃ tag page, Tagged tag ∧ (t.text (assets tag)).answer = .got page ∧
          LinksArchive page.toList) ∧
      ∀ release, found.outcome = .found (some release) ↔
        ∃ tag page path, Tagged tag ∧ (t.text (assets tag)).answer = .got page ∧
          extractArchive? page = some path ∧
          release = ⟨tag, Text.dropTrailingSlashes origin ++ path⟩) ∧
    (∀ release, found.outcome = .found (some release) →
      release.version ≠ "" ∧
      (∀ c ∈ release.version.toList, c ≠ '/' ∧ c ≠ '?' ∧ Text.isBlank c = false) ∧
      ∃ path, release.zipUrl = Text.dropTrailingSlashes origin ++ path ∧ '"' ∉ path.toList ∧
        ∃ root name, root ≠ "" ∧ name ≠ "" ∧
          path = "/" ++ root ++ "/releases/download/" ++ name ++ ".zip") ∧
    ∀ m n, lookup t (origin ++ .ofList (.replicate m '/')) (repoUrl ++ .ofList (.replicate n '/')) =
      found := by
  intro repo found latest assets Tagged
  have htagged (tag : String) : Tagged tag ↔ latestTag? t repo = some tag :=
    latestTag?_eq_some_iff.symm
  refine ⟨?_, ?_, ?_, ?_, lookup_append_slashes t origin repoUrl⟩
  · intro htext hlocation
    cases houtcome : found.outcome with
    | found release => exact ⟨release, rfl⟩
    | crashed => exact absurd houtcome (lookup_ne_crashed htext hlocation origin repoUrl)
  · intro hslashes
    have hnone : found = ⟨[], 0, .found none⟩ :=
      lookup_of_no_repo origin (Text.dropTrailingSlashes_eq_empty_iff.mpr hslashes)
    rw [hnone]
    exact ⟨rfl, rfl⟩
  · rintro ⟨c, hc, hslash⟩
    have hrepo : repo ≠ "" := by
      intro hempty
      exact hslash (Text.dropTrailingSlashes_eq_empty_iff.mp hempty c hc)
    simp only [htagged]
    refine ⟨fun tag htag => (lookup_of_tag origin hrepo htag).1, fun hnone => ?_,
      exists_outcome_lookup_iff origin hrepo, outcome_lookup_eq_found_iff origin hrepo⟩
    exact (lookup_of_no_tag origin hrepo (Option.eq_none_iff_forall_ne_some.mpr hnone)).1
  · intro release hrelease
    obtain ⟨⟨hne, hchars⟩, hzip⟩ := shape_of_lookup hrelease
    refine ⟨?_, fun c hc => isTagChar_iff.mp (hchars c hc), hzip⟩
    intro hempty
    exact hne (congrArg String.toList hempty)

theorem lookup_answers_plain :
    let repo := "https://h.test/o/m"
    let t := singleRelease repo "v1" "<a href=\"/o/m/releases/download/v1/m.zip\">"
    let found := lookup t "https://h.test" repo
    let release : Release := ⟨"v1", "https://h.test" ++ "/o/m/releases/download/v1/m.zip"⟩
    (∃ answer, found.outcome = .found answer) ∧
      found.requests = [.location (repo ++ "/releases/latest"),
        .text (repo ++ "/releases/expanded_assets/" ++ "v1")] ∧
      found.outcome = .found (some release) ∧ release.version ≠ "" ∧
      (lookup t "https://h.test" "https://h.test/o").requests =
        [.location ("https://h.test/o" ++ "/releases/latest")] ∧
      (lookup t "https://h.test" "//").requests = [] := by
  intro repo t found release
  have hrepo : Text.dropTrailingSlashes repo = repo := by decide +kernel
  have hother : Text.dropTrailingSlashes "https://h.test/o" = "https://h.test/o" := by
    decide +kernel
  have horigin : Text.dropTrailingSlashes "https://h.test" = "https://h.test" := by decide +kernel
  have htag : extractTag? (repo ++ "/releases/tag/" ++ "v1") = some "v1" := by decide +kernel
  have hpath : extractArchive? "<a href=\"/o/m/releases/download/v1/m.zip\">" =
      some "/o/m/releases/download/v1/m.zip" := by decide +kernel
  have htext (url : String) : (t.text url).answer ≠ .crashed := by
    simp only [t, singleRelease]
    split <;> simp
  have hlocation (url : String) : (t.location url).answer ≠ .crashed := by
    simp only [t, singleRelease]
    split <;> simp
  obtain ⟨hanswer, -, hasked, hshape, -⟩ := lookup_answers t "https://h.test" repo
  obtain ⟨-, -, hunasked, -, -⟩ := lookup_answers t "https://h.test" "https://h.test/o"
  obtain ⟨-, hnone, -, -, -⟩ := lookup_answers t "https://h.test" "//"
  rw [hrepo, horigin] at hasked
  rw [hother] at hunasked
  obtain ⟨hboth, -, -, hfound⟩ := hasked ⟨'h', by decide, by decide⟩
  have hrelease : found.outcome = .found (some release) :=
    (hfound release).mpr ⟨"v1", _, _, ⟨_, rfl, htag⟩, rfl, hpath, rfl⟩
  refine ⟨hanswer htext hlocation, hboth "v1" ⟨_, rfl, htag⟩, hrelease, (hshape _ hrelease).1,
    (hunasked ⟨'h', by decide, by decide⟩).2.1 ?_, (hnone (by simp)).1⟩
  rintro tag ⟨location, hlocated, -⟩
  cases hlocated

end ModuleCatalog.Release
