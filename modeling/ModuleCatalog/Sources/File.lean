import ModuleCatalog.FileTree
import ModuleCatalog.Sources.Basic
import ModuleCatalog.Yaml.Document
import ModuleCatalog.Yaml.Writer

/-!
The file in which the source list is kept: a YAML mapping with the addresses and the switch.
-/
namespace ModuleCatalog.Sources

def urlsKey : List Char := "urls".toList

def nonFreeKey : List Char := "include_non_free".toList

/-- The tag under which a literal block may hold a truth value. -/
def boolTag : List UInt8 := "tag:yaml.org,2002:bool".toUTF8.toList

def scalar? (root n : Yaml.Node) : Option (List Char) :=
  match Yaml.Node.target? root n with
  | some (.scalar _ _ _ value) => some value
  | _ => none

/-- Reads the addresses: a sequence of scalars, or nothing written at all. -/
def readUrls? (root n : Yaml.Node) : Option (List String) :=
  match Yaml.Node.target? root n with
  | some (.sequence _ items) => items.mapM fun x => (scalar? root x).map .ofList
  | some (.scalar _ .plain _ []) => some []
  | _ => none

/-- Reads the switch: a plain truth value, or a literal block tagged as one. -/
def readSwitch? (root n : Yaml.Node) : Option Bool :=
  match Yaml.Node.target? root n with
  | some (.scalar _ .plain _ value) => Yaml.bool? value
  | some (.scalar _ .literal (some tag) value) => if tag = boolTag then Yaml.bool? value else none
  | _ => none

/-- The fields read so far. -/
structure Fields where
  urls : Option (List String)
  includeNonFree : Option Bool
  deriving DecidableEq, Repr

/-- Reads the pairs of the mapping. Unknown keys are passed over, whatever stands under them; a
known key may not be repeated. -/
def readPairs? (root : Yaml.Node) (f : Fields) : List (Yaml.Node × Yaml.Node) → Option Fields
  | [] => some f
  | (k, v) :: rest =>
    match scalar? root k with
    | none => none
    | some key =>
      if key = urlsKey then
        if f.urls.isSome then none
        else
          match readUrls? root v with
          | some urls => readPairs? root { f with urls := some urls } rest
          | none => none
      else if key = nonFreeKey then
        if f.includeNonFree.isSome then none
        else
          match readSwitch? root v with
          | some b => readPairs? root { f with includeNonFree := some b } rest
          | none => none
      else readPairs? root f rest

/-- The source list in a document; a missing field is empty, and so is a missing document. -/
def ofNode? (root : Yaml.Node) : Option Sources :=
  let fields : Option Fields :=
    match root with
    | .mapping _ pairs => readPairs? root ⟨none, none⟩ pairs
    | .scalar _ .plain _ [] => some ⟨none, none⟩
    | _ => none
  fields.map fun f => ⟨f.urls.getD [], f.includeNonFree.getD false⟩

def parse? (text : String) : Option Sources :=
  (Yaml.document? text.toList).bind ofNode?

def render (s : Sources) : String :=
  let items := s.urls.flatMap fun url => Yaml.itemText url.toList
  let urls := if s.urls.isEmpty then " []\n".toList else '\n' :: items
  let switch := if s.includeNonFree then "true" else "false"
  .ofList (urlsKey ++ ':' :: urls ++ nonFreeKey ++ ": ".toList ++ switch.toList ++ ['\n'])

/-- Why the file could not be used. -/
inductive FileError where
  | unreadable (path : String)
  | unparsable (path : String)
  | noDirectory (obstacle : FileTree.Obstacle)
  | unwritable (path : String)
  deriving DecidableEq, Repr

/-- The sentence for an error; a missing directory is reported as the system words it. -/
def FileError.message : FileError → String
  | .unreadable path => "Failed to read source config: " ++ path
  | .unparsable path => "Failed to parse source config: " ++ path
  | .noDirectory obstacle => obstacle.message
  | .unwritable path => "Failed to write source config: " ++ path

/-- Loads the source list; without a file there is the default list. -/
def load (files : FileTree) (path : String) : Except FileError Sources :=
  match files.find? path with
  | none => .ok default.normalize
  | some .directory => .error (.unreadable path)
  | some (.file bytes) =>
    match String.fromUTF8? bytes with
    | none => .error (.unreadable path)
    | some text =>
      match parse? text with
      | none => .error (.unparsable path)
      | some s => .ok s.normalize

/-- What saving leads to: the files afterwards, and why the source list is not saved, if it is
not. -/
structure Saved where
  files : FileTree
  error : Option FileError

/-- Saves the source list, making the directory of the file if it is missing. Directories that were
made stay there when the file cannot be written. -/
def save (files : FileTree) (path : String) (s : Sources) : Saved :=
  match files.makeDirectories (Path.parentOf path) with
  | (files, some obstacle) => ⟨files, some (.noDirectory obstacle)⟩
  | (files, none) =>
    match files.write? path s.render.toUTF8 with
    | none => ⟨files, some (.unwritable path)⟩
    | some files => ⟨files, none⟩

end ModuleCatalog.Sources
