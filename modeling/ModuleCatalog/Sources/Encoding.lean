import ModuleCatalog.Catalog.Encoding
import ModuleCatalog.Sources.Basic

/-!
The JSON form of a source list. A field that is missing has its default, no addresses and no
non-free catalog; a field that is there has to have its type.
-/
namespace ModuleCatalog.Sources

def toJson (s : Sources) : Json :=
  .object [("urls", .array (s.urls.map .string)), ("include_non_free", .bool s.includeNonFree)]

def urls? : Json → Option (List String)
  | .array items => items.mapM Json.string?
  | _ => none

def ofFields? (urls includeNonFree : Option Json) : Option Sources := do
  let urls ← match urls with
    | some v => urls? v
    | none => some []
  let includeNonFree ← match includeNonFree with
    | some v => v.bool?
    | none => some false
  some ⟨urls, includeNonFree⟩

/-- Reads a source list: an object, or an array of the fields in order. -/
def ofJson? : Json → Option Sources
  | .object members =>
    ofFields? (Json.member? members "urls") (Json.member? members "include_non_free")
  | .array [] => ofFields? none none
  | .array [urls] => ofFields? (some urls) none
  | .array [urls, includeNonFree] => ofFields? (some urls) (some includeNonFree)
  | _ => none

end ModuleCatalog.Sources
