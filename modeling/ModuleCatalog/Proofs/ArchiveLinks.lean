import ModuleCatalog.Release.Page
import ModuleCatalog.Proofs.Searches

/-!
What a link to an archive looks like: a quoted path that begins with a slash, leads through the
downloads of a release and ends in the name of an archive.
-/
namespace ModuleCatalog.Release

theorem isArchiveName_iff {cs : List Char} :
    isArchiveName cs = true ↔ ∃ name, name ≠ [] ∧ cs = name ++ archiveEnd := by
  rw [isArchiveName, Bool.and_eq_true, List.isSuffixOf_iff_suffix, decide_eq_true_eq]
  constructor
  · rintro ⟨⟨name, rfl⟩, hlength⟩
    refine ⟨name, ?_, rfl⟩
    rintro rfl
    exact Nat.lt_irrefl _ hlength
  · rintro ⟨name, hne, rfl⟩
    refine ⟨List.suffix_append _ _, ?_⟩
    have hpos : 0 < name.length := List.length_pos_iff.mpr hne
    rw [List.length_append]
    omega

theorem hasDownload_iff {cs : List Char} :
    hasDownload cs = true ↔
      ∃ before name, cs = before ++ downloadMark ++ name ∧ isArchiveName name = true := by
  induction cs with
  | nil =>
    refine ⟨nofun, ?_⟩
    rintro ⟨before, name, hnil, -⟩
    have hmark : downloadMark = [] :=
      (List.append_eq_nil_iff.mp (List.append_eq_nil_iff.mp hnil.symm).1).2
    exact absurd hmark (by decide)
  | cons c cs ih =>
    rw [hasDownload, Bool.or_eq_true, ih]
    constructor
    · rintro (hhere | ⟨before, name, rfl, hname⟩)
      · cases hafter : after? downloadMark (c :: cs) with
        | none => simp [hafter] at hhere
        | some name =>
          rw [hafter] at hhere
          exact ⟨[], name, after?_eq_some_iff.mp hafter, hhere⟩
      · exact ⟨c :: before, name, rfl, hname⟩
    · rintro ⟨before, name, hcs, hname⟩
      cases before with
      | nil =>
        left
        have hafter : after? downloadMark (c :: cs) = some name := after?_eq_some_iff.mpr hcs
        rw [hafter]
        exact hname
      | cons b before => exact .inr ⟨before, name, (List.cons.inj hcs).2, hname⟩

theorem isArchivePath_iff {path : List Char} :
    isArchivePath path = true ↔
      ∃ root name, root ≠ [] ∧ name ≠ [] ∧
        path = '/' :: root ++ downloadMark ++ name ++ archiveEnd := by
  constructor
  · intro h
    unfold isArchivePath at h
    split at h
    · next c rest =>
      obtain ⟨before, archive, rfl, harchive⟩ := hasDownload_iff.mp h
      obtain ⟨name, hname, rfl⟩ := isArchiveName_iff.mp harchive
      exact ⟨c :: before, name, List.cons_ne_nil _ _, hname, by simp⟩
    · cases h
  · rintro ⟨root, name, hroot, hname, rfl⟩
    obtain ⟨c, before, rfl⟩ := List.exists_cons_of_ne_nil hroot
    have harchive : isArchiveName (name ++ archiveEnd) = true :=
      isArchiveName_iff.mpr ⟨name, hname, rfl⟩
    have hdownload : hasDownload (before ++ downloadMark ++ (name ++ archiveEnd)) = true :=
      hasDownload_iff.mpr ⟨before, _, rfl, harchive⟩
    simpa [isArchivePath] using hdownload

/-- A quoted text at the front ends where the first quote stands. -/
theorem quoted?_eq_some_iff {cs value : List Char} :
    quoted? cs = some value ↔ '"' ∉ value ∧ ∃ rest, cs = value ++ '"' :: rest := by
  have htake (value rest : List Char) (h : '"' ∉ value) :
      (value ++ '"' :: rest).takeWhile (· != '"') = value := by
    refine takeWhile_append_stop (fun c hc => ?_) (fun c hc => ?_)
    · rw [bne_iff_ne]
      exact ne_of_mem_of_not_mem hc h
    · cases hc
      rfl
  unfold quoted?
  constructor
  · intro h
    split at h
    · next hquote =>
      obtain ⟨before, rest, rfl, hbefore⟩ :=
        List.eq_append_cons_of_mem (List.contains_iff_mem.mp hquote)
      rw [htake before rest hbefore, Option.some.injEq] at h
      subst h
      exact ⟨hbefore, rest, rfl⟩
    · cases h
  · rintro ⟨hvalue, rest, rfl⟩
    rw [if_pos (by simp), htake value rest hvalue]

theorem archiveHere?_eq_some_iff {cs path : List Char} :
    archiveHere? cs = some path ↔
      isArchivePath path = true ∧ '"' ∉ path ∧ ∃ rest, cs = linkMark ++ path ++ '"' :: rest := by
  rw [archiveHere?]
  cases hafter : after? linkMark cs with
  | none =>
    refine ⟨nofun, ?_⟩
    rintro ⟨-, -, rest, rfl⟩
    rw [List.append_assoc, after?_eq_some_iff.mpr rfl] at hafter
    cases hafter
  | some tail =>
    obtain rfl := after?_eq_some_iff.mp hafter
    rw [Option.filter_eq_some_iff, quoted?_eq_some_iff, and_comm]
    simp only [List.append_assoc, List.append_cancel_left_eq]

theorem searches_findArchive? : Searches findArchive? archiveHere? where
  find?_nil := rfl
  here?_nil := rfl
  find?_cons c cs := by
    rw [findArchive?]
    cases archiveHere? (c :: cs) <;> rfl

/-- What is found on a page stands in one of its links. -/
theorem exists_of_findArchive? {cs path : List Char} (h : findArchive? cs = some path) :
    isArchivePath path = true ∧ '"' ∉ path ∧
      ∃ before rest, cs = before ++ linkMark ++ path ++ '"' :: rest := by
  obtain ⟨before, tail, rfl, htail⟩ := searches_findArchive?.exists_of_eq_some h
  obtain ⟨hpath, hquote, rest, rfl⟩ := archiveHere?_eq_some_iff.mp htail
  exact ⟨hpath, hquote, before, rest, by simp only [List.append_assoc]⟩

/-- What is found on a page leads from the root through the downloads of a release to an archive. -/
theorem archive_of_extractArchive? {page path : String} (h : extractArchive? page = some path) :
    '"' ∉ path.toList ∧ ∃ root name : String, root ≠ "" ∧ name ≠ "" ∧
      path = "/" ++ root ++ "/releases/download/" ++ name ++ ".zip" := by
  obtain ⟨cs, hcs, rfl⟩ := Option.map_eq_some_iff.mp h
  obtain ⟨hpath, hquote, -⟩ := exists_of_findArchive? hcs
  obtain ⟨root, name, hroot, hname, rfl⟩ := isArchivePath_iff.mp hpath
  refine ⟨by rwa [String.toList_ofList], .ofList root, .ofList name, ?_, ?_, ?_⟩
  · simpa using hroot
  · simpa using hname
  · rw [← String.toList_inj]
    simp only [String.toList_append, String.toList_ofList]
    rfl

/-- Says that somewhere in a text a link opens, and that up to the closing quote it leads from the
root through the downloads of a release to an archive. -/
def LinksArchive (cs : List Char) : Prop :=
  ∃ before root name rest, root ≠ [] ∧ name ≠ [] ∧ '"' ∉ root ∧ '"' ∉ name ∧
    cs = before ++ (linkMark ++ '/' :: root ++ downloadMark ++ name ++ archiveEnd ++ '"' :: rest)

theorem exists_findArchive?_iff {cs : List Char} :
    (∃ path, findArchive? cs = some path) ↔ LinksArchive cs := by
  have hmarks : '"' ∉ downloadMark ∧ '"' ∉ archiveEnd := by decide
  constructor
  · rintro ⟨path, h⟩
    obtain ⟨hpath, hquote, before, rest, rfl⟩ := exists_of_findArchive? h
    obtain ⟨root, name, hroot, hname, rfl⟩ := isArchivePath_iff.mp hpath
    simp only [List.mem_append, List.mem_cons, not_or] at hquote
    exact ⟨before, root, name, rest, hroot, hname, hquote.1.1.1.2, hquote.1.2,
      by simp only [List.append_assoc]⟩
  · rintro ⟨before, root, name, rest, hroot, hname, hrootQuote, hnameQuote, rfl⟩
    have hquote : '"' ∉ '/' :: root ++ downloadMark ++ name ++ archiveEnd := by
      simp [hmarks, hrootQuote, hnameQuote]
    have hpath : isArchivePath ('/' :: root ++ downloadMark ++ name ++ archiveEnd) = true :=
      isArchivePath_iff.mpr ⟨root, name, hroot, hname, rfl⟩
    apply searches_findArchive?.exists_append
    exact archiveHere?_eq_some_iff.mpr ⟨hpath, hquote, rest, by simp only [List.append_assoc]⟩

theorem exists_extractArchive?_iff {page : String} :
    (∃ path, extractArchive? page = some path) ↔ LinksArchive page.toList := by
  rw [← exists_findArchive?_iff]
  constructor
  · rintro ⟨_, h⟩
    obtain ⟨path, hpath, -⟩ := Option.map_eq_some_iff.mp h
    exact ⟨path, hpath⟩
  · rintro ⟨path, hpath⟩
    exact ⟨.ofList path, by rw [extractArchive?, hpath, Option.map_some]⟩

end ModuleCatalog.Release
