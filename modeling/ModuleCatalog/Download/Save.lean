import ModuleCatalog.Digest.Sha256
import ModuleCatalog.Download.Gate
import ModuleCatalog.FileSystem
import ModuleCatalog.Http.Exchange
import ModuleCatalog.Http.Status
import ModuleCatalog.Path
import ModuleCatalog.Text.Quoted

/-!
Downloading over HTTP into a directory. The proposed file name is cut down to its last component, so
that nothing is written outside the directory, and nothing is written at all before the whole body
has been read.
-/
namespace ModuleCatalog.Download

/-- Why a download failed. -/
inductive SaveError where
  | notSent
  | refused (status : Nat) (url : String)
  | unreadable
  | badName (name : String)
  | noDirectory (dir : String)
  | unwritable (path : String)
  deriving DecidableEq, Repr

def SaveError.message : SaveError → String
  | .notSent => "Failed to download module"
  | .refused status url => "Download failed: HTTP " ++ Http.statusText status ++ " for " ++ url
  | .unreadable => "Failed to read download response"
  | .badName name => "Unusable file name: " ++ Text.quoted name
  | .noDirectory dir => "Failed to create " ++ dir
  | .unwritable path => "Failed to write " ++ path

/-- The last component of a file name, unless it leads back. -/
def baseName? (name : String) : Option String :=
  match (Path.namesOf name).getLast? with
  | some last => if last = ".." then none else some last
  | none => none

def inDirectory (dir name : String) : String :=
  if dir.isEmpty then name
  else if dir.endsWith "/" then dir ++ name
  else dir ++ "/" ++ name

def destination (dir name : String) : Except SaveError String :=
  match baseName? name with
  | some last => .ok (inDirectory dir last)
  | none => .error (.badName name)

def receive (net : Http.Network) (o : Order) : Except SaveError ByteArray :=
  match net.get o.url with
  | none => .error .notSent
  | some r =>
    if !Http.isSuccess r.status then .error (.refused r.status o.url)
    else
      match r.body with
      | none => .error .unreadable
      | some body => .ok body

/-- What a download leads to: the files afterwards, and the saved file or why there is none. -/
structure Saved (State : Type) where
  files : State
  artifact : Except SaveError Artifact

variable {State File : Type}

/-- Writes a body into a directory under the last component of a file name. Directories that were
made stay there when the file cannot be written. -/
def store (sys : FileSystem State File) (files : State) (dir name : String) (body : ByteArray) :
    Saved State :=
  match destination dir name with
  | .error error => ⟨files, .error error⟩
  | .ok path =>
    match sys.makeDirectories files dir with
    | (files, false) => ⟨files, .error (.noDirectory dir)⟩
    | (files, true) =>
      match sys.write? files path body with
      | none => ⟨files, .error (.unwritable path)⟩
      | some files => ⟨files, .ok ⟨path, body.size, Digest.sha256Name body⟩⟩

/-- Downloads what an order asks for into a directory. -/
def save (sys : FileSystem State File) (net : Http.Network) (files : State) (dir : String)
    (o : Order) : Saved State :=
  match receive net o with
  | .error error => ⟨files, .error error⟩
  | .ok body => store sys files dir o.fileName body

end ModuleCatalog.Download
