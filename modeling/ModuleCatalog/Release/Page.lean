import ModuleCatalog.Text.Blank

/-!
Finding the tag in the address of a release and the first archive on a page of assets. Both look
for the leftmost place where the whole pattern fits, so that a place where only its beginning fits
hides nothing that stands further on.
-/
namespace ModuleCatalog.Release

def after? : List Char → List Char → Option (List Char)
  | [], cs => some cs
  | _ :: _, [] => none
  | p :: ps, c :: cs => if p = c then after? ps cs else none

theorem after?_eq_some_iff {p cs rest : List Char} : after? p cs = some rest ↔ cs = p ++ rest := by
  induction p generalizing cs with
  | nil => simp [after?]
  | cons x xs ih =>
    cases cs with
    | nil => simp [after?]
    | cons c cs =>
      by_cases h : x = c
      · subst h; simp [after?, ih]
      · simp [after?, h, Ne.symm h]

def isTagChar (c : Char) : Bool :=
  c != '/' && c != '?' && !Text.isBlank c

/-- What stands before a tag in the address of a release. -/
def tagMark : List Char := "/tag/".toList

/-- The tag whose mark stands at the front of a text: the longest run of tag characters. -/
def tagHere? (cs : List Char) : Option (List Char) :=
  match after? tagMark cs with
  | none => none
  | some rest =>
    match rest.takeWhile isTagChar with
    | [] => none
    | tag => some tag

def findTag? : List Char → Option (List Char)
  | [] => none
  | c :: cs =>
    match tagHere? (c :: cs) with
    | some tag => some tag
    | none => findTag? cs

def extractTag? (location : String) : Option String :=
  (findTag? location.toList).map .ofList

def linkMark : List Char := "href=\"".toList

/-- The part of a path that leads to the files of a release. -/
def downloadMark : List Char := "/releases/download/".toList

def archiveEnd : List Char := ".zip".toList

/-- The quoted text at the front, up to the closing quote, if there is one. -/
def quoted? (cs : List Char) : Option (List Char) :=
  if cs.contains '"' then some (cs.takeWhile (· != '"')) else none

/-- Says whether a text is a nonempty text followed by the end of the name of an archive. -/
def isArchiveName (cs : List Char) : Bool :=
  archiveEnd.isSuffixOf cs && archiveEnd.length < cs.length

/-- Says whether at some position the mark of downloads stands with an archive name after it. -/
def hasDownload : List Char → Bool
  | [] => false
  | c :: cs =>
    (match after? downloadMark (c :: cs) with
      | some rest => isArchiveName rest
      | none => false) ||
    hasDownload cs

/-- Says whether a link leads to an archive of a release: a slash, at least one character, the mark
of downloads and an archive name. -/
def isArchivePath : List Char → Bool
  | '/' :: _ :: rest => hasDownload rest
  | _ => false

/-- The path of the archive that is linked at the front of a text. -/
def archiveHere? (cs : List Char) : Option (List Char) :=
  match after? linkMark cs with
  | none => none
  | some rest => (quoted? rest).filter isArchivePath

/-- The leftmost path of an archive that is linked in a text. -/
def findArchive? : List Char → Option (List Char)
  | [] => none
  | c :: cs =>
    match archiveHere? (c :: cs) with
    | some path => some path
    | none => findArchive? cs

/-- The path of the first archive that is linked on a page. -/
def extractArchive? (page : String) : Option String :=
  (findArchive? page.toList).map .ofList

end ModuleCatalog.Release
