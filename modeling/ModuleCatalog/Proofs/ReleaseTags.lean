import ModuleCatalog.Release.Lookup
import ModuleCatalog.Proofs.Searches

/-!
Which tag is read off the address that the latest release redirects to. The search takes the first
mark of a tag in the whole address, and the address begins with that of the repository, so that the
tag of the release is found exactly where the address of the repository does not hold another one.
-/
namespace ModuleCatalog.Release

/-- A text that can be a tag. -/
def IsTag (tag : List Char) : Prop :=
  tag ≠ [] ∧ ∀ c ∈ tag, isTagChar c = true

theorem isTagChar_iff {c : Char} :
    isTagChar c = true ↔ c ≠ '/' ∧ c ≠ '?' ∧ Text.isBlank c = false := by
  simp [isTagChar, and_assoc]

theorem after?_append (mark rest : List Char) : after? mark (mark ++ rest) = some rest :=
  after?_eq_some_iff.mpr rfl

theorem takeWhile_isTagChar_append_slash (cs more : List Char) :
    (cs ++ '/' :: more).takeWhile isTagChar = cs.takeWhile isTagChar := by
  induction cs with
  | nil => rfl
  | cons c cs ih =>
    by_cases hc : isTagChar c = true
    · rw [List.cons_append, List.takeWhile_cons_of_pos hc, List.takeWhile_cons_of_pos hc, ih]
    · rw [List.cons_append, List.takeWhile_cons_of_neg hc, List.takeWhile_cons_of_neg hc]

theorem isTag_of_tagHere? {cs tag : List Char} (h : tagHere? cs = some tag) : IsTag tag := by
  unfold tagHere? at h
  split at h
  · cases h
  · next rest _ =>
    split at h
    · cases h
    · next hne =>
      cases h
      exact ⟨hne, fun c hc => List.mem_takeWhile_imp hc⟩

theorem searches_findTag? : Searches findTag? tagHere? where
  find?_nil := rfl
  here?_nil := rfl
  find?_cons c cs := by
    rw [findTag?]
    cases tagHere? (c :: cs) <;> rfl

/-- What is found in a text is a tag. -/
theorem isTag_of_findTag? {cs tag : List Char} (h : findTag? cs = some tag) : IsTag tag := by
  obtain ⟨before, tail, -, htail⟩ := searches_findTag?.exists_of_eq_some h
  exact isTag_of_tagHere? htail

theorem tagHere?_mark {tag : List Char} (h : IsTag tag) : tagHere? (tagMark ++ tag) = some tag := by
  have hrun : tag.takeWhile isTagChar = tag := List.takeWhile_eq_self_iff.mpr h.2
  obtain ⟨c, cs, rfl⟩ := List.exists_cons_of_ne_nil h.1
  rw [tagHere?, after?_append]
  simp only [hrun]

theorem findTag?_mark {tag : List Char} (h : IsTag tag) : findTag? (tagMark ++ tag) = some tag := by
  have hhere : tagHere? ('/' :: ("tag/".toList ++ tag)) = some tag := tagHere?_mark h
  change findTag? ('/' :: ("tag/".toList ++ tag)) = some tag
  rw [findTag?, hhere]

/-- Where a slash of the mark follows something of it, that is nothing or all before the last slash.
-/
theorem tagMark_eq_append_slash {before after : List Char} (h : tagMark = before ++ '/' :: after) :
    before = [] ∨ before = "/tag".toList := by
  rcases before with _ | ⟨a, _ | ⟨b, _ | ⟨c, _ | ⟨d, _ | ⟨e, before⟩⟩⟩⟩⟩
  · exact .inl rfl
  · simp [tagMark] at h
  · simp [tagMark] at h
  · simp [tagMark] at h
  · obtain ⟨rfl, rfl, rfl, rfl, -⟩ : '/' = a ∧ 't' = b ∧ 'a' = c ∧ 'g' = d ∧ [] = after := by
      simpa [tagMark, eq_comm] using h
    exact .inr rfl
  · simp [tagMark] at h

/-- What follows a slash after a text has no part in a tag at its front, unless the text is all of
the mark but its last slash. -/
theorem tagHere?_append_slash {c : Char} {cs : List Char} (h : c :: cs ≠ "/tag".toList)
    (more : List Char) : tagHere? (c :: cs ++ '/' :: more) = tagHere? (c :: cs) := by
  cases hafter : after? tagMark (c :: cs) with
  | some rest =>
    have hwhole : after? tagMark (c :: cs ++ '/' :: more) = some (rest ++ '/' :: more) := by
      rw [after?_eq_some_iff] at hafter ⊢
      rw [hafter, List.append_assoc]
    rw [tagHere?, hwhole, tagHere?, hafter]
    simp only [takeWhile_isTagChar_append_slash]
  | none =>
    have hwhole : after? tagMark (c :: cs ++ '/' :: more) = none := by
      by_contra hne
      obtain ⟨rest, hrest⟩ := Option.ne_none_iff_exists'.mp hne
      rw [after?_eq_some_iff] at hrest
      rcases List.append_eq_append_iff.mp hrest with ⟨part, hmark, hpart⟩ | ⟨part, hcs, -⟩
      · -- The mark would end beyond the text, with a slash of its own at the end of the text.
        rcases part with _ | ⟨d, part⟩
        · rw [List.append_nil] at hmark
          have hfront : after? tagMark (c :: cs) = some [] := by
            rw [after?_eq_some_iff, List.append_nil, hmark]
          rw [hfront] at hafter
          cases hafter
        · obtain rfl : '/' = d := (List.cons.inj hpart).1
          rcases tagMark_eq_append_slash hmark with hnil | htag
          · cases hnil
          · exact h htag
      · rw [hcs, after?_append] at hafter
        cases hafter
    rw [tagHere?, hwhole, tagHere?, hafter]

/-- The first tag of an address is in what stands before one of its slashes, or after it. -/
theorem findTag?_append_slash {address : List Char} (h : ¬"/tag".toList <:+ address)
    (more : List Char) :
    findTag? (address ++ '/' :: more) = (findTag? address).or (findTag? ('/' :: more)) := by
  induction address with
  | nil => rfl
  | cons c cs ih =>
    have hne : c :: cs ≠ "/tag".toList := by
      intro heq
      exact h (heq ▸ List.suffix_refl _)
    have hrest : ¬"/tag".toList <:+ cs := fun hs => h (hs.trans (List.suffix_cons c cs))
    have hhere := tagHere?_append_slash hne more
    rw [List.cons_append] at hhere ⊢
    rw [findTag?, hhere, findTag?]
    cases tagHere? (c :: cs) with
    | some tag => rfl
    | none => exact ih hrest

/-- No character of a tag follows a mark of a tag, wherever one stands in a text. -/
def HoldsNoTag (cs : List Char) : Prop :=
  ∀ before c after, cs = before ++ tagMark ++ c :: after → isTagChar c = false

theorem tagHere?_eq_none_iff {cs : List Char} :
    tagHere? cs = none ↔ ∀ c after, cs = tagMark ++ c :: after → isTagChar c = false := by
  constructor
  · rintro h c after rfl
    rw [tagHere?, after?_append] at h
    by_contra hc
    simp [List.takeWhile_cons_of_pos (Bool.not_eq_false _ ▸ hc)] at h
  · intro h
    cases hafter : after? tagMark cs with
    | none => rw [tagHere?, hafter]
    | some rest =>
      have hcs : cs = tagMark ++ rest := after?_eq_some_iff.mp hafter
      cases rest with
      | nil =>
        rw [tagHere?, hafter]
        rfl
      | cons c rest =>
        have hc : isTagChar c = false := h c rest hcs
        rw [tagHere?, hafter]
        simp [hc]

theorem findTag?_eq_none_iff {cs : List Char} : findTag? cs = none ↔ HoldsNoTag cs := by
  simp only [searches_findTag?.eq_none_iff_forall_append, tagHere?_eq_none_iff]
  constructor
  · intro h before c after hcs
    exact h before (tagMark ++ c :: after) (by rw [hcs, List.append_assoc]) c after rfl
  · rintro h before tail rfl c after rfl
    exact h before c after (List.append_assoc _ _ _).symm

theorem extractTag?_eq_none_iff {address : String} :
    extractTag? address = none ↔ HoldsNoTag address.toList := by
  rw [extractTag?, Option.map_eq_none_iff, findTag?_eq_none_iff]

/-- The tag in the address of a release is one that stands in the address of the repository, or else
its own. -/
theorem extractTag?_release (repo : String) {tag : String} (h : IsTag tag.toList) :
    extractTag? (repo ++ "/releases/tag/" ++ tag) =
      some ((extractTag? (repo ++ "/releases")).getD tag) := by
  have hsplit : (repo ++ "/releases/tag/" ++ tag).toList =
      (repo ++ "/releases").toList ++ '/' :: ("tag/".toList ++ tag.toList) := by
    simp
  have hend : ¬"/tag".toList <:+ (repo ++ "/releases").toList := by
    rw [String.toList_append]
    intro hsuffix
    have hshort : "/tag".toList <:+ "/releases".toList :=
      List.suffix_of_suffix_length_le hsuffix (List.suffix_append _ _) (by decide)
    revert hshort
    decide
  have hown : findTag? ('/' :: ("tag/".toList ++ tag.toList)) = some tag.toList := findTag?_mark h
  rw [extractTag?, hsplit, findTag?_append_slash hend, hown, extractTag?]
  cases findTag? (repo ++ "/releases").toList with
  | none => simp
  | some other => rfl

section Lookup

variable {t : Transport} {repoUrl : String}

theorem lookup_located {location tag : String} (origin : String)
    (hrepo : Text.dropTrailingSlashes repoUrl ≠ "")
    (hlocation : (t.location (latestUrl (Text.dropTrailingSlashes repoUrl))).answer =
      .got (some location))
    (htag : extractTag? location = some tag) :
    let repo := Text.dropTrailingSlashes repoUrl
    (lookup t origin repoUrl).requests = [.location (latestUrl repo), .text (assetsUrl repo tag)] ∧
      (lookup t origin repoUrl).outcome = (lookupAssets t origin repo tag).outcome := by
  have hempty : (Text.dropTrailingSlashes repoUrl).isEmpty = false := by simpa using hrepo
  intro repo
  simp only [lookup, hempty, hlocation, Option.bind_some, htag]
  exact ⟨rfl, rfl⟩

theorem outcome_lookupAssets {repo tag page path : String} (origin : String)
    (hpage : (t.text (assetsUrl repo tag)).answer = .got page)
    (hpath : extractArchive? page = some path) :
    (lookupAssets t origin repo tag).outcome =
      .found (some ⟨tag, Text.dropTrailingSlashes origin ++ path⟩) := by
  simp only [lookupAssets, hpage, hpath, Option.map_some]

/-- A repository whose latest release redirects to the address of a tag under it, with a page of
that tag's assets, is found with that tag and the first archive of the page, in two requests,
exactly if the address of its releases holds no other tag. It holds none where no mark of a tag in
it has a character of one after it. -/
theorem lookup_redirected (t : Transport) (origin repoUrl tag page path : String)
    (hrepo : Text.dropTrailingSlashes repoUrl ≠ "") (hne : tag ≠ "")
    (hchars : ∀ c ∈ tag.toList, c ≠ '/' ∧ c ≠ '?' ∧ Text.isBlank c = false)
    (hlocation : (t.location (Text.dropTrailingSlashes repoUrl ++ "/releases/latest")).answer =
      .got (some (Text.dropTrailingSlashes repoUrl ++ "/releases/tag/" ++ tag)))
    (hpage : (t.text
      (Text.dropTrailingSlashes repoUrl ++ "/releases/expanded_assets/" ++ tag)).answer = .got page)
    (hpath : extractArchive? page = some path) :
    let repo := Text.dropTrailingSlashes repoUrl
    let found := lookup t origin repoUrl
    (found.requests = [.location (repo ++ "/releases/latest"),
          .text (repo ++ "/releases/expanded_assets/" ++ tag)] ∧
        found.outcome = .found (some ⟨tag, Text.dropTrailingSlashes origin ++ path⟩) ↔
      ∀ other, extractTag? (repo ++ "/releases") = some other → other = tag) ∧
    (HoldsNoTag (repo ++ "/releases").toList ↔ extractTag? (repo ++ "/releases") = none) := by
  intro repo found
  refine ⟨?_, extractTag?_eq_none_iff.symm⟩
  have htag : IsTag tag.toList := by
    refine ⟨by simpa using hne, fun c hc => ?_⟩
    exact isTagChar_iff.mpr (hchars c hc)
  obtain ⟨hrequests, houtcome⟩ :=
    lookup_located origin hrepo hlocation (extractTag?_release repo htag)
  constructor
  · rintro ⟨hasked, -⟩ other hother
    rw [hother, Option.getD_some] at hrequests
    have hboth : latestUrl repo = repo ++ "/releases/latest" ∧
        assetsUrl repo other = repo ++ "/releases/expanded_assets/" ++ tag := by
      simpa using hrequests.symm.trans hasked
    exact (String.append_right_inj _).mp hboth.2
  · intro hall
    have hread : (extractTag? (repo ++ "/releases")).getD tag = tag := by
      cases hother : extractTag? (repo ++ "/releases") with
      | none => rfl
      | some other => exact hall other hother
    rw [hread] at hrequests houtcome
    refine ⟨hrequests, ?_⟩
    rw [houtcome]
    exact outcome_lookupAssets origin hpage hpath

/-- A host on which one repository has one release with one archive. -/
def singleRelease (repo tag page : String) : Transport where
  text url := ⟨0, if url = assetsUrl repo tag then .got page else .failed (.unreachable url)⟩
  location url :=
    ⟨0, if url = latestUrl repo then .got (some (repo ++ "/releases/tag/" ++ tag))
      else .failed (.unreachable url)⟩

theorem lookup_redirected_plain :
    let repo := "https://h.test/o/m"
    let page := "<a href=\"/o/m/releases/download/v1/m.zip\">"
    let t := singleRelease repo "v1" page
    Text.dropTrailingSlashes (repo ++ "//") = repo ∧
      (t.location (repo ++ "/releases/latest")).answer =
        .got (some (repo ++ "/releases/tag/" ++ "v1")) ∧
      (lookup t "https://h.test/" (repo ++ "//")).outcome =
        .found (some ⟨"v1", "https://h.test" ++ "/o/m/releases/download/v1/m.zip"⟩) := by
  intro repo page t
  have hrepo : Text.dropTrailingSlashes (repo ++ "//") = repo := by decide +kernel
  have horigin : Text.dropTrailingSlashes "https://h.test/" = "https://h.test" := by decide +kernel
  have hlocation : (t.location (repo ++ "/releases/latest")).answer =
      .got (some (repo ++ "/releases/tag/" ++ "v1")) := rfl
  have hpath : extractArchive? page = some "/o/m/releases/download/v1/m.zip" := by decide +kernel
  have hnone : extractTag? (repo ++ "/releases") = none := by decide +kernel
  have hchars : ∀ c ∈ "v1".toList, c ≠ '/' ∧ c ≠ '?' ∧ Text.isBlank c = false := by
    intro c hc
    obtain rfl | rfl : c = 'v' ∨ c = '1' := by simpa using hc
    · decide
    · decide
  obtain ⟨hfound, -⟩ := lookup_redirected t "https://h.test/" (repo ++ "//") "v1" page _
    (by rw [hrepo]; decide) (by decide) hchars (by rw [hrepo]; exact hlocation)
    (by rw [hrepo]; rfl) hpath
  rw [hrepo, horigin] at hfound
  refine ⟨hrepo, hlocation, (hfound.mpr fun other h => ?_).2⟩
  rw [hnone] at h
  cases h

/-- The owner of a repository may be called "tag", and then its name is taken for the tag of the
release, whose page is not asked for. -/
theorem lookup_misled_by_owner :
    let repo := "https://github.com/tag/tool"
    let page := "<a href=\"/tag/tool/releases/download/v1/tool.zip\">"
    let t := singleRelease repo "v1" page
    Text.dropTrailingSlashes repo = repo ∧
      (t.location (repo ++ "/releases/latest")).answer =
        .got (some (repo ++ "/releases/tag/" ++ "v1")) ∧
      (t.text (repo ++ "/releases/expanded_assets/" ++ "v1")).answer = .got page ∧
      extractArchive? page = some "/tag/tool/releases/download/v1/tool.zip" ∧
      (lookup t "https://github.com" repo).requests =
        [.location (repo ++ "/releases/latest"),
          .text (repo ++ "/releases/expanded_assets/" ++ "tool")] ∧
      (lookup t "https://github.com" repo).outcome = .found none := by
  intro repo page t
  have hrepo : Text.dropTrailingSlashes repo = repo := by decide +kernel
  have hpath : extractArchive? page = some "/tag/tool/releases/download/v1/tool.zip" := by
    decide +kernel
  exact ⟨hrepo, rfl, rfl, hpath, by decide +kernel, by decide +kernel⟩

end Lookup

end ModuleCatalog.Release
