import ModuleCatalog.Catalog.Entry
import ModuleCatalog.Text.Blank
import ModuleCatalog.Text.Lowercase

/-!
The order in which entries are shown, and the search over them. Both compare lower-cased texts.
-/
namespace ModuleCatalog.Catalog

/-- The entries by lower-cased name, compared by code points; equal names keep their order. -/
def sortByName (entries : List Entry) : List Entry :=
  ((entries.map fun e => (Text.lower e.name, e)).mergeSort fun a b => decide (a.1 ≤ b.1)).map (·.2)

/-- Says whether a text contains a lower-cased text when it is lower-cased itself. -/
def holdsLowered (needle : String) (text : String) : Bool :=
  Text.occursIn needle.toList (Text.lower text).toList

/-- Says whether name, description or author contain the lower-cased text. -/
def isHit (needle : String) (e : Entry) : Bool :=
  holdsLowered needle e.name || holdsLowered needle e.description || holdsLowered needle e.author

/-- Says whether an entry matches a query; a blank query matches every entry. -/
def answers (query : String) (e : Entry) : Bool :=
  let trimmed := Text.trim query
  trimmed.isEmpty || isHit (Text.lower trimmed) e

def search (entries : List Entry) (query : String) : List Entry :=
  entries.filter (answers query)

end ModuleCatalog.Catalog
