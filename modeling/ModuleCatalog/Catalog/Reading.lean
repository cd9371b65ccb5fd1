import ModuleCatalog.Failure
import ModuleCatalog.Json.Reader
import ModuleCatalog.Text.Blank

/-!
Reading a catalog. The body has to be an array of objects; inside an object every field is read on
its own and has a default, so that a missing or mistyped field never costs an entry.
-/
namespace ModuleCatalog

namespace Entry

/-- A field read as text: numbers and truth values are taken as they are written. -/
def textOf : Option Json → String
  | some (.string s) => s
  | some (.number n) => n.text
  | some (.bool b) => if b then "true" else "false"
  | _ => ""

/-- The digits of a number without its sign, all of them ASCII digits and at least one. -/
def digitsOf? (cs : List Char) : Option Nat :=
  if cs.isEmpty || !cs.all Char.isDigit then none
  else some (Json.ofDigits (cs.map (·.toNat - 48)))

/-- The signed 64-bit integer that a text denotes, with an optional sign. -/
def int64Of? (cs : List Char) : Option Int :=
  let n : Option Int :=
    match cs with
    | '+' :: ds => (digitsOf? ds).map Int.ofNat
    | '-' :: ds => (digitsOf? ds).map fun n => -Int.ofNat n
    | ds => (digitsOf? ds).map Int.ofNat
  n.filter fun n => Json.int64Min ≤ n && n ≤ Json.int64Max

def visibilityOf : Option Json → Int
  | some (.number n) => n.toInt64
  | some (.string s) => (int64Of? (Text.trimChars s.toList)).getD visibleFlag
  | _ => visibleFlag

def ofMembers (kind : Kind) (members : List (String × Json)) : Entry where
  kind := kind
  id := textOf (Json.member? members "id")
  name := textOf (Json.member? members "name")
  description := textOf (Json.member? members "description")
  author := textOf (Json.member? members "author")
  repoUrl := textOf (Json.member? members "repoUrl")
  bannerLink := textOf (Json.member? members "bannerUrl")
  license := textOf (Json.member? members "license")
  visibility := visibilityOf (Json.member? members "visibility")
  latestVersion := ""
  downloadUrl := ""
  isLoading := true

/-- The entry of a catalog element, which has to be an object. -/
def ofJson? (kind : Kind) : Json → Option Entry
  | .object members => some (ofMembers kind members)
  | _ => none

end Entry

namespace Catalog

/-- The entries of the elements from an index on, or the index of the first that is no object. -/
def entriesFrom (kind : Kind) (index : Nat) : List Json → Except CatalogFault (List Entry)
  | [] => .ok []
  | v :: vs =>
    match Entry.ofJson? kind v with
    | none => .error (.notObject index)
    | some e => (entriesFrom kind (index + 1) vs).map (e :: ·)

def entries (kind : Kind) (body : String) : Except CatalogFault (List Entry) :=
  match Json.parse? body with
  | none => .error .notJson
  | some (.array items) => entriesFrom kind 0 items
  | some _ => .error .notArray

/-- The entries of the body that an address answered with. -/
def parse (kind : Kind) (url body : String) : Except Failure (List Entry) :=
  match entries kind body with
  | .ok list => .ok list
  | .error fault => .error (.notACatalog url fault)

end Catalog

end ModuleCatalog
