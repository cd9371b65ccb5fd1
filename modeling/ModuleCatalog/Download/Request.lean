import ModuleCatalog.Failure

/-!
What a download facility is asked for, and what it reports.
-/
namespace ModuleCatalog.Download

/-- The order handed to a facility. -/
structure Order where
  name : String
  url : String
  fileName : String
  deriving DecidableEq, Repr

/-- The file that a download left. -/
structure Artifact where
  path : String
  size : Nat
  digest : String
  deriving DecidableEq, Repr

/-- The order for an entry, which has to be downloadable. -/
def order (e : Entry) : Except Failure Order :=
  if e.isDownloadable then .ok ⟨e.name, e.downloadUrl, e.fileName⟩
  else .error (.notDownloadable e.name)

/-- An entry that is not loading can be ordered exactly if it has an address. -/
theorem order_of_url {e : Entry} (hloading : e.isLoading = false) :
    order e =
      if e.downloadUrl = "" then .error (.notDownloadable e.name)
      else .ok ⟨e.name, e.downloadUrl, e.fileName⟩ := by
  by_cases hurl : e.downloadUrl = "" <;> simp [order, Entry.isDownloadable, hloading, hurl]

end ModuleCatalog.Download
