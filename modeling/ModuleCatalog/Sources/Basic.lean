import ModuleCatalog.Failure
import ModuleCatalog.Text.Blank

/-!
The ordered list of catalog addresses that the user browses, and the switch that adds the non-free
catalog after them.
-/
namespace ModuleCatalog

def defaultCatalogUrl : String :=
  "https://raw.githubusercontent.com/KernelSU-Next/KernelSU-Next-Modules-Repo/refs/heads/main/modules.json"

def nonFreeCatalogUrl : String :=
  "https://raw.githubusercontent.com/KernelSU-Next/KernelSU-Next-Modules-Repo/refs/heads/main/non_free_modules.json"

def metaCatalogUrl : String :=
  "https://raw.githubusercontent.com/KernelSU-Next/KernelSU-Next-Modules-Repo/refs/heads/main/meta_modules.json"

/-- The source list. -/
structure Sources where
  urls : List String
  includeNonFree : Bool
  deriving DecidableEq, Repr

namespace Sources

def default : Sources :=
  ⟨[defaultCatalogUrl], false⟩

/-- The addresses to ask, in the order in which their entries are merged. -/
def effectiveUrls (s : Sources) : List String :=
  if s.includeNonFree then s.urls ++ [nonFreeCatalogUrl] else s.urls

def urlsFor (s : Sources) : Kind → List String
  | .modules => s.effectiveUrls
  | .metaModules => [metaCatalogUrl]

/-- Says whether a text begins like the address of a web resource. -/
def hasWebScheme (url : String) : Bool :=
  "http://".toList.isPrefixOf url.toList || "https://".toList.isPrefixOf url.toList

/-- The address without white space around it, if it can stand in the list. -/
def checked (url : String) : Except SourceFault String :=
  let trimmed := Text.trim url
  if trimmed.isEmpty then .error .empty
  else if hasWebScheme trimmed then .ok trimmed
  else .error .notWeb

def add (s : Sources) (url : String) : Except SourceFault Sources :=
  match checked url with
  | .error fault => .error fault
  | .ok url =>
    if url ∈ s.urls then .error (.duplicate url)
    else .ok { s with urls := s.urls ++ [url] }

/-- Puts an address in the place of the one at an index. -/
def replace (s : Sources) (index : Nat) (url : String) : Except SourceFault Sources :=
  match checked url with
  | .error fault => .error fault
  | .ok url =>
    if url ∈ s.urls.eraseIdx index then .error (.duplicate url)
    else if index < s.urls.length then .ok { s with urls := s.urls.set index url }
    else .error (.noSuchIndex index)

/-- Removes the address at an index and gives it back; the last address stays. -/
def remove (s : Sources) (index : Nat) : Except SourceFault (String × Sources) :=
  match s.urls[index]? with
  | none => .error (.noSuchIndex index)
  | some url =>
    if s.urls.length = 1 then .error .lastSource
    else .ok (url, { s with urls := s.urls.eraseIdx index })

/-- Restores the list of addresses; the switch is kept. -/
def reset (s : Sources) : Sources :=
  { s with urls := default.urls }

def setNonFree (s : Sources) (enabled : Bool) : Sources :=
  { s with includeNonFree := enabled }

/-- The addresses without white space around them and without blank ones. -/
def normalizeUrls (urls : List String) : List String :=
  (urls.map Text.trim).filter fun url => !url.isEmpty

/-- The list as it is used after reading: normalized, and never empty. -/
def normalize (s : Sources) : Sources :=
  match normalizeUrls s.urls with
  | [] => { s with urls := default.urls }
  | urls => { s with urls := urls }

end Sources

end ModuleCatalog
