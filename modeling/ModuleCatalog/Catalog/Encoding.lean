import ModuleCatalog.Catalog.Entry
import ModuleCatalog.Json.Number

/-!
The JSON form of entries, releases and identities. Unlike a catalog element, an encoded value is
read strictly: every field has to be there with its type, and unknown fields are ignored. The values
of a structure may also stand in an array, in the order of the fields.
-/
namespace ModuleCatalog

namespace Json

def string? : Json → Option String
  | .string s => some s
  | _ => none

def bool? : Json → Option Bool
  | .bool b => some b
  | _ => none

def int64? : Json → Option Int
  | .number (.integer n) => if int64Min ≤ n && n ≤ int64Max then some n else none
  | _ => none

/-- The values of the named fields: those of an object, or the items of an array of that length. -/
def fields? (names : List String) : Json → Option (List Json)
  | .object members => names.mapM (member? members)
  | .array items => if items.length = names.length then some items else none
  | _ => none

end Json

namespace Kind

def name : Kind → String
  | .modules => "modules"
  | .metaModules => "meta_modules"

def ofName? : String → Option Kind
  | "modules" => some .modules
  | "meta_modules" => some .metaModules
  | _ => none

def toJson (k : Kind) : Json :=
  .string k.name

/-- Reads a kind: its name, or an object with the name as its only key and null under it. -/
def ofJson? : Json → Option Kind
  | .string s => ofName? s
  | .object members =>
    match members.getLast? with
    | some (s, .null) => if members.all (·.1 == s) then ofName? s else none
    | _ => none
  | _ => none

end Kind

namespace Release

def toJson (r : Release) : Json :=
  .object [("version", .string r.version), ("zipUrl", .string r.zipUrl)]

def ofJson? (v : Json) : Option Release := do
  let [version, zipUrl] ← v.fields? ["version", "zipUrl"] | none
  some { version := ← version.string?, zipUrl := ← zipUrl.string? }

end Release

namespace Identity

def toJson : Identity → Json
  | .byId id => .object [("type", .string "id"), ("id", .string id)]
  | .byNameAndRepo name repoUrl =>
    .object [("type", .string "name_repo"), ("name", .string name), ("repo_url", .string repoUrl)]

def ofFields? (form : String) (v : Json) : Option Identity :=
  if form = "id" then do
    let [id] ← v.fields? ["id"] | none
    some (.byId (← id.string?))
  else if form = "name_repo" then do
    let [name, repoUrl] ← v.fields? ["name", "repo_url"] | none
    some (.byNameAndRepo (← name.string?) (← repoUrl.string?))
  else none

/-- Reads an identity; in an array the name of the form comes first. -/
def ofJson? : Json → Option Identity
  | .object members =>
    match Json.member? members "type" with
    | some (.string form) => ofFields? form (.object members)
    | _ => none
  | .array (.string form :: items) => ofFields? form (.array items)
  | _ => none

end Identity

namespace Entry

def fieldNames : List String :=
  ["kind", "id", "name", "description", "author", "repoUrl", "bannerLink", "license", "visibility",
    "latestVersion", "downloadUrl", "isLoading"]

def toJson (e : Entry) : Json :=
  .object [
    ("kind", e.kind.toJson), ("id", .string e.id), ("name", .string e.name),
    ("description", .string e.description), ("author", .string e.author),
    ("repoUrl", .string e.repoUrl), ("bannerLink", .string e.bannerLink),
    ("license", .string e.license), ("visibility", .ofInt e.visibility),
    ("latestVersion", .string e.latestVersion), ("downloadUrl", .string e.downloadUrl),
    ("isLoading", .bool e.isLoading)]

def ofEncoded? (v : Json) : Option Entry := do
  let [kind, id, name, description, author, repoUrl, bannerLink, license, visibility,
    latestVersion, downloadUrl, isLoading] ← v.fields? fieldNames | none
  some {
    kind := ← Kind.ofJson? kind, id := ← id.string?, name := ← name.string?,
    description := ← description.string?, author := ← author.string?,
    repoUrl := ← repoUrl.string?, bannerLink := ← bannerLink.string?,
    license := ← license.string?, visibility := ← visibility.int64?,
    latestVersion := ← latestVersion.string?, downloadUrl := ← downloadUrl.string?,
    isLoading := ← isLoading.bool? }

end Entry

end ModuleCatalog
