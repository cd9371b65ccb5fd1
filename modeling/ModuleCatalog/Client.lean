import ModuleCatalog.Release.Lookup

/-!
The settings of the HTTP client.
-/
namespace ModuleCatalog

def productName : String := "KernelSU"

/-- The version of the program, and the build named where no other is given. -/
def programVersion : String := "0.1.0"

/-- The host to whose name the path of an archive is appended. -/
def defaultOrigin : String := "https://github.com"

/-- The settings shared by all requests. -/
structure Client where
  userAgent : String
  timeoutMs : Nat
  maxConcurrent : Nat
  origin : String
  deriving DecidableEq, Repr

namespace Client

def userAgentFor (build : String) : String :=
  productName ++ "/" ++ build

/-- The settings that hold unless others are given. -/
def default : Client :=
  ⟨userAgentFor programVersion, 30000, 8, defaultOrigin⟩

def withBuild (c : Client) (build : String) : Client :=
  { c with userAgent := userAgentFor build }

/-- Sets how many lookups may run at once; at least one may. -/
def withMaxConcurrent (c : Client) (limit : Nat) : Client :=
  { c with maxConcurrent := max limit 1 }

def withTimeoutMs (c : Client) (ms : Nat) : Client :=
  { c with timeoutMs := ms }

/-- The greatest number of lookups that can be kept count of. -/
def maxCountable : Nat := Nat.pow 2 61 - 1

/-- Says whether the limit on the lookups that run at once can be kept. -/
def canLimit (c : Client) : Bool :=
  c.maxConcurrent ≤ maxCountable

/-- Says whether a character can stand in the value of a header. -/
def isHeaderChar (c : Char) : Bool :=
  (0x20 ≤ c.toNat || c == '\t') && c.toNat != 0x7F

/-- Says whether requests can be made with the settings: the name has to fit a header. -/
def isUsable (c : Client) : Bool :=
  c.userAgent.toList.all isHeaderChar

end Client

end ModuleCatalog
