import ModuleCatalog.Catalog.Entry

/-!
Merging the lists of several sources: hidden entries are dropped, and of the entries with one
identity the first is kept.
-/
namespace ModuleCatalog.Catalog

/-- Drops every entry whose identity is in `seen` or was met before. -/
def firstOfEach (seen : List Identity) : List Entry → List Entry
  | [] => []
  | e :: es =>
    if e.identity ∈ seen then firstOfEach seen es
    else e :: firstOfEach (e.identity :: seen) es

theorem sublist_firstOfEach (seen : List Identity) (es : List Entry) :
    (firstOfEach seen es).Sublist es := by
  induction es generalizing seen with
  | nil => exact .slnil
  | cons e es ih =>
    unfold firstOfEach
    split
    · exact (ih seen).cons e
    · exact (ih (e.identity :: seen)).cons_cons e

/-- The visible entries of all lists, one for each identity, in the order of the lists. -/
def merge (lists : List (List Entry)) : List Entry :=
  firstOfEach [] (lists.flatten.filter Entry.isVisible)

end ModuleCatalog.Catalog
