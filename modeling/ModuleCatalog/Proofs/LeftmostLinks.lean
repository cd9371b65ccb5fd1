import ModuleCatalog.Proofs.ArchiveLinks

/-!
Which link of a page is taken: the first one to an archive. Main statement: `first_link_taken`, at
which positions of a page such a link stands and that the first of them counts.
-/
namespace ModuleCatalog.Release

/-- Says that a link opens at a position of a text, that a path stands in its quotes, and that the
path leads from the root through the downloads of a release to an archive. -/
def LinksAt (cs : List Char) (i : Nat) (path : List Char) : Prop :=
  '"' ∉ path ∧
    (∃ root name, root ≠ [] ∧ name ≠ [] ∧
      path = '/' :: root ++ "/releases/download/".toList ++ name ++ ".zip".toList) ∧
    ∃ rest, cs.drop i = "href=\"".toList ++ path ++ '"' :: rest

section LinksAt

variable {cs path value rest : List Char} {i : Nat}

theorem linksAt_iff : LinksAt cs i path ↔ archiveHere? (cs.drop i) = some path := by
  rw [archiveHere?_eq_some_iff, isArchivePath_iff]
  exact and_left_comm

theorem not_linksAt_iff : (∀ path, ¬LinksAt cs i path) ↔ archiveHere? (cs.drop i) = none := by
  simp only [linksAt_iff, Option.eq_none_iff_forall_ne_some, ne_eq]

/-- A quoted text ends at the first quote after it begins. -/
theorem eq_of_append_quote (hpath : '"' ∉ path) (hvalue : '"' ∉ value) {rest' : List Char}
    (h : path ++ '"' :: rest = value ++ '"' :: rest') : path = value := by
  have hquoted : quoted? (path ++ '"' :: rest) = some path :=
    quoted?_eq_some_iff.mpr ⟨hpath, rest, rfl⟩
  have hquoted' : quoted? (path ++ '"' :: rest) = some value :=
    quoted?_eq_some_iff.mpr ⟨hvalue, rest', h⟩
  exact Option.some.inj (hquoted.symm.trans hquoted')

/-- The path of a link is all that stands in its quotes. -/
theorem LinksAt.eq_value (h : LinksAt cs i path) (hvalue : '"' ∉ value)
    (hcs : cs.drop i = "href=\"".toList ++ value ++ '"' :: rest) : path = value := by
  obtain ⟨hpath, -, rest', hcs'⟩ := h
  rw [hcs, List.append_assoc, List.append_assoc, List.append_cancel_left_eq] at hcs'
  exact eq_of_append_quote hpath hvalue hcs'.symm

/-- A link whose quotes are not closed leads nowhere. -/
theorem not_linksAt_of_unclosed (hrest : '"' ∉ rest)
    (hcs : cs.drop i = "href=\"".toList ++ rest) : ¬LinksAt cs i path := by
  rintro ⟨-, -, rest', hcs'⟩
  rw [hcs, List.append_assoc, List.append_cancel_left_eq] at hcs'
  apply hrest
  rw [hcs']
  simp

end LinksAt

/-- The path that is found on a page is that of the first link to an archive, and none is found
exactly if no position has such a link. A path is all that stands in the quotes of its link, and a
link whose quotes are not closed does not count. -/
theorem first_link_taken (page : String) :
    (∀ path, extractArchive? page = some path ↔
      ∃ i, LinksAt page.toList i path.toList ∧ ∀ j < i, ∀ other, ¬LinksAt page.toList j other) ∧
    (extractArchive? page = none ↔ ∀ i path, ¬LinksAt page.toList i path) ∧
    (∀ i value rest, page.toList.drop i = "href=\"".toList ++ value ++ '"' :: rest → '"' ∉ value →
      ∀ path, LinksAt page.toList i path → path = value) ∧
    ∀ i rest, page.toList.drop i = "href=\"".toList ++ rest → '"' ∉ rest →
      ∀ path, ¬LinksAt page.toList i path := by
  refine ⟨fun path => ?_, ?_, ?_, ?_⟩
  · have hfound : extractArchive? page = some path ↔
        findArchive? page.toList = some path.toList := by
      rw [extractArchive?, Option.map_eq_some_iff]
      constructor
      · rintro ⟨cs, hcs, rfl⟩
        rwa [String.toList_ofList]
      · intro h
        exact ⟨_, h, String.ofList_toList⟩
    simp only [hfound, searches_findArchive?.eq_some_iff, ← linksAt_iff, ← not_linksAt_iff]
  · rw [extractArchive?, Option.map_eq_none_iff, searches_findArchive?.eq_none_iff]
    simp only [← not_linksAt_iff]
  · intro i value rest hcs hvalue path h
    exact h.eq_value hvalue hcs
  · intro i rest hcs hrest path
    exact not_linksAt_of_unclosed hrest hcs

/-- A link that misses the downloads and one that is not closed stand before the one that is taken.
-/
example :
    extractArchive? "href=\"/o/m.zip\" href=\"/o href=\"/o/releases/download/1/m.zip\"" =
      some "/o/releases/download/1/m.zip" := by
  decide +kernel

end ModuleCatalog.Release
