import ModuleCatalog.Catalog.Entry

/-!
The ways in which the pipeline, the source list and the download gate can fail, and the sentence
that reports each.
-/
namespace ModuleCatalog

/-- Why a body is not a catalog. -/
inductive CatalogFault where
  | notJson
  | notArray
  | notObject (index : Nat)
  deriving DecidableEq, Repr

/-- What is wrong with the shape of a well-formed body. -/
def CatalogFault.detail? : CatalogFault → Option String
  | .notJson => none
  | .notArray => some "expected a JSON array"
  | .notObject index => some s!"element {index} is not an object"

/-- Why a change of the source list is refused. -/
inductive SourceFault where
  | empty
  | notWeb
  | duplicate (url : String)
  | noSuchIndex (index : Nat)
  | lastSource
  deriving DecidableEq, Repr

def SourceFault.message : SourceFault → String
  | .empty => "URL is empty"
  | .notWeb => "Catalog URL must start with http:// or https://"
  | .duplicate url => "'" ++ url ++ "' is already configured"
  | .noSuchIndex index => s!"No source at index {index}"
  | .lastSource => "At least one catalog source must remain"

/-- A failure of a whole stage. -/
inductive Failure where
  | status (url : String) (code : Nat)
  | unreachable (url : String)
  | notACatalog (url : String) (fault : CatalogFault)
  | noModules
  | noMetaModules
  | notDownloadable (name : String)
  | busy (name : String)
  | badSource (fault : SourceFault)
  deriving DecidableEq, Repr

def Failure.message : Failure → String
  | .status url code => s!"HTTP {code} from " ++ url
  | .unreachable url => "Request to " ++ url ++ " failed"
  | .notACatalog url _ => "Catalog at " ++ url ++ " is not a valid JSON array"
  | .noModules => "No modules found across all repositories"
  | .noMetaModules => "Failed to load module list"
  | .notDownloadable name => "Module '" ++ name ++ "' has no downloadable release"
  | .busy name => "A download for '" ++ name ++ "' is already in progress"
  | .badSource fault => "Invalid source configuration: " ++ fault.message

def Failure.nothingListed : Kind → Failure
  | .modules => .noModules
  | .metaModules => .noMetaModules

end ModuleCatalog
