/-!
Catalog entries: one installable module each, with what identifies it and what is known about its
latest release.
-/
namespace ModuleCatalog

/-- The two kinds of catalogs; the kind decides what identifies an entry. -/
inductive Kind where
  | modules
  | metaModules
  deriving DecidableEq, Repr, Inhabited

/-- A release that can be downloaded. -/
structure Release where
  version : String
  zipUrl : String
  deriving DecidableEq, Repr

/-- What tells two entries of a catalog apart. -/
inductive Identity where
  | byId (id : String)
  | byNameAndRepo (name : String) (repoUrl : String)
  deriving DecidableEq, Repr

def Identity.text : Identity → String
  | .byId id => id
  | .byNameAndRepo name repoUrl => name ++ "||" ++ repoUrl

/-- One module of a catalog. The version and the download address are empty while the release is
being looked up. -/
structure Entry where
  kind : Kind
  id : String
  name : String
  description : String
  author : String
  repoUrl : String
  bannerLink : String
  license : String
  visibility : Int
  latestVersion : String
  downloadUrl : String
  isLoading : Bool
  deriving DecidableEq, Repr

namespace Entry

/-- The visibility of an entry that is shown, and the one assumed where none is given. -/
def visibleFlag : Int := 1

/-- The version of an entry whose release was looked for and not found. -/
def noVersion : String := "null"

/-- What identifies the entry: its id in a meta catalog, its name and repository otherwise. -/
def identity (e : Entry) : Identity :=
  match e.kind with
  | .metaModules => .byId e.id
  | .modules => .byNameAndRepo e.name e.repoUrl

def isVisible (e : Entry) : Bool :=
  e.visibility == visibleFlag

theorem isVisible_iff (e : Entry) : e.isVisible = true ↔ e.visibility = 1 := by
  rw [isVisible, beq_iff_eq]
  rfl

def placeholder (e : Entry) : Entry :=
  { e with latestVersion := "", downloadUrl := "", isLoading := true }

def resolved (e : Entry) : Option Release → Entry
  | some r => { e with latestVersion := r.version, downloadUrl := r.zipUrl, isLoading := false }
  | none => { e with latestVersion := noVersion, downloadUrl := "", isLoading := false }

/-! A lookup changes nothing but the version, the download address and the loading mark. -/

@[simp]
theorem identity_placeholder (e : Entry) : e.placeholder.identity = e.identity := rfl

@[simp]
theorem identity_resolved (e : Entry) (r : Option Release) :
    (e.resolved r).identity = e.identity := by
  cases r <;> rfl

@[simp]
theorem isVisible_placeholder (e : Entry) : e.placeholder.isVisible = e.isVisible := rfl

@[simp]
theorem isVisible_resolved (e : Entry) (r : Option Release) :
    (e.resolved r).isVisible = e.isVisible := by
  cases r <;> rfl

@[simp]
theorem isLoading_placeholder (e : Entry) : e.placeholder.isLoading = true := rfl

@[simp]
theorem isLoading_resolved (e : Entry) (r : Option Release) : (e.resolved r).isLoading = false := by
  cases r <;> rfl

def isDownloadable (e : Entry) : Bool :=
  !e.isLoading && e.downloadUrl != ""

/-- Puts one character in the place of every occurrence of another. -/
def substitute (old new : Char) (s : String) : String :=
  .ofList (s.toList.map fun c => if c = old then new else c)

def fileName (e : Entry) : String :=
  substitute ' ' '_' e.name ++ "_" ++ substitute '/' '_' e.latestVersion ++ ".zip"

end Entry

end ModuleCatalog
