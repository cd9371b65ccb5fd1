import ModuleCatalog.Failure
import ModuleCatalog.Release.Page

/-!
Looking up the latest release of a repository. The address of the latest release redirects to the
address of its tag, and the page of that tag's assets links the archive. Whatever fails on the way
means that there is no release.
-/
namespace ModuleCatalog

/-- A request for the text of an address or for where an address redirects to. -/
inductive Request where
  | text (url : String)
  | location (url : String)
  deriving DecidableEq, Repr

/-- What becomes of a request; a crash ends the task that made the request. -/
inductive Answer (α : Type) where
  | got (value : α)
  | failed (failure : Failure)
  | crashed

/-- An answer, and the number of cycles begun elsewhere while the request was under way. -/
structure Reply (α : Type) where
  begins : Nat
  answer : Answer α

/-- A transport answers both kinds of requests. -/
structure Transport where
  text : String → Reply String
  location : String → Reply (Option String)

namespace Release

/-- How a lookup ends. -/
inductive Outcome where
  | found (release : Option Release)
  | crashed
  deriving DecidableEq, Repr

/-- A lookup: the requests it makes, the cycles begun meanwhile, and how it ends. -/
structure Lookup where
  requests : List Request
  begins : Nat
  outcome : Outcome
  deriving DecidableEq, Repr

/-- A resolver looks up the latest release of a repository. -/
abbrev Resolver : Type := String → Lookup

/-- The address that redirects to the latest release. -/
def latestUrl (repo : String) : String :=
  repo ++ "/releases/latest"

def assetsUrl (repo tag : String) : String :=
  repo ++ "/releases/expanded_assets/" ++ tag

/-- The second half of a lookup, once the tag is known. -/
def lookupAssets (t : Transport) (origin repo tag : String) : Lookup :=
  let url := assetsUrl repo tag
  let reply := t.text url
  let outcome : Outcome :=
    match reply.answer with
    | .got page =>
      .found ((extractArchive? page).map fun path =>
        ⟨tag, Text.dropTrailingSlashes origin ++ path⟩)
    | .failed _ => .found none
    | .crashed => .crashed
  ⟨[.text url], reply.begins, outcome⟩

/-- Looks up the latest release by its redirect and its page of assets. Slashes at the end of the
repository address and of the origin do not count; without a repository nothing is asked. -/
def lookup (t : Transport) (origin : String) (repoUrl : String) : Lookup :=
  let repo := Text.dropTrailingSlashes repoUrl
  if repo.isEmpty then ⟨[], 0, .found none⟩
  else
    let url := latestUrl repo
    let reply := t.location url
    match reply.answer with
    | .crashed => ⟨[.location url], reply.begins, .crashed⟩
    | .failed _ => ⟨[.location url], reply.begins, .found none⟩
    | .got location =>
      match location.bind extractTag? with
      | none => ⟨[.location url], reply.begins, .found none⟩
      | some tag =>
        let rest := lookupAssets t origin repo tag
        ⟨.location url :: rest.requests, reply.begins + rest.begins, rest.outcome⟩

end Release

end ModuleCatalog
