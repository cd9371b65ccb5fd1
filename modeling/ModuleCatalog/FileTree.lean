import Std.Data.HashMap
import ModuleCatalog.FileSystem
import ModuleCatalog.Path

/-!
A directory tree as the program sees it: files with their bytes and directories, under paths of
names. Making directories keeps those that were made before one that cannot be made; every other
operation either succeeds or changes nothing.
-/
namespace ModuleCatalog

/-- What stands at a path. -/
inductive FileTree.Node where
  | file (bytes : ByteArray)
  | directory

/-- Says whether two nodes are directories or files with the same bytes. -/
def FileTree.Node.isSame : FileTree.Node → FileTree.Node → Bool
  | .directory, .directory => true
  | .file bytes, .file bytes' => bytes.data == bytes'.data
  | _, _ => false

/-- Why a directory cannot be made: a file has its name, a file stands on the way to it, or the
system does not take the text of a path. -/
inductive FileTree.Obstacle where
  | fileInPlace
  | fileOnTheWay
  | nameTooLong
  | nulInPath
  deriving DecidableEq, Repr

/-- The sentence with which the system reports an obstacle. -/
def FileTree.Obstacle.message : FileTree.Obstacle → String
  | .fileInPlace => "File exists (os error 17)"
  | .fileOnTheWay => "Not a directory (os error 20)"
  | .nameTooLong => "File name too long (os error 36)"
  | .nulInPath => "file name contained an unexpected NUL byte"

/-- The files and directories that the program can reach, apart from the directories that are there
from the start. -/
structure FileTree where
  nodes : Std.HashMap Path FileTree.Node

namespace FileTree

def empty : FileTree :=
  ⟨∅⟩

def get? (t : FileTree) (p : Path) : Option Node :=
  if Path.isGiven p then some .directory else t.nodes[p]?

def put (t : FileTree) (p : Path) (n : Node) : FileTree :=
  ⟨t.nodes.insert p n⟩

theorem get?_put_self (t : FileTree) (p : Path) (n : Node) (h : Path.isGiven p = false) :
    (t.put p n).get? p = some n := by
  simp [get?, put, h]

theorem get?_put_of_ne (t : FileTree) {p q : Path} (n : Node) (h : p ≠ q) :
    (t.put p n).get? q = t.get? q := by
  simp [get?, put, Std.HashMap.getElem?_insert, h]

theorem get?_empty (p : Path) :
    empty.get? p = if Path.isGiven p then some .directory else none := by
  simp [get?, empty]

def isDirectory (t : FileTree) (p : Path) : Bool :=
  match t.get? p with
  | some .directory => true
  | _ => false

def file? (t : FileTree) (p : Path) : Option ByteArray :=
  match t.get? p with
  | some (.file bytes) => some bytes
  | _ => none

/-- Follows names from a directory; each but the last has to lead to a directory. -/
def follow (t : FileTree) (dir : Path) : List String → Option Path
  | [] => some dir
  | name :: names =>
    if !t.isDirectory dir then none
    else if name = ".." then follow t (Path.up dir) names
    else if Path.isName name then follow t (dir ++ [name]) names
    else none

def resolve? (t : FileTree) (s : String) : Option Path :=
  if s.isEmpty || Path.holdsNul s || !Path.isShort s then none
  else t.follow (Path.start s) (Path.namesOf s)

def find? (t : FileTree) (s : String) : Option Node :=
  match t.resolve? s with
  | none => none
  | some p => if Path.meansDirectory s && !t.isDirectory p then none else t.get? p

/-- Follows names from a directory and makes the directories that are missing; `made` says whether
some are made already. A file on the way is met as one in place where the directory before it had
to be made first. -/
def makeFrom (t : FileTree) (made : Bool) (dir : Path) :
    List String → FileTree × Option Obstacle
  | [] => (t, none)
  | name :: names =>
    if name = ".." then makeFrom t made (Path.up dir) names
    else if !Path.isName name then (t, some .nameTooLong)
    else
      let p := dir ++ [name]
      match t.get? p with
      | some .directory => makeFrom t made p names
      | some (.file _) => (t, some (if made || names.isEmpty then .fileInPlace else .fileOnTheWay))
      | none => makeFrom (t.put p .directory) true p names

/-- Makes the directory that a text means and those on the way to it, as far as they are missing. An
empty text means the working directory. -/
def makeDirectories (t : FileTree) (s : String) : FileTree × Option Obstacle :=
  if Path.holdsNul s then (t, some .nulInPath)
  else if !Path.isShort s then (t, some .nameTooLong)
  else t.makeFrom false (Path.start s) (Path.namesOf s)

/-- Writes a whole file in a directory that is there. -/
def write? (t : FileTree) (s : String) (bytes : ByteArray) : Option FileTree :=
  if Path.meansDirectory s then none
  else
    match t.resolve? s with
    | none => none
    | some p => if t.isDirectory p then none else some (t.put p (.file bytes))

/-- The place of the file to which the text of a path leads. -/
def fileAt? (t : FileTree) (s : String) : Option Path :=
  if Path.meansDirectory s then none
  else (t.resolve? s).filter fun p => (t.file? p).isSome

/-- The tree as a system of files, which refuses nothing that the shape of the tree allows. -/
def system : FileSystem FileTree Path where
  makeDirectories t dir := ((t.makeDirectories dir).1, (t.makeDirectories dir).2.isNone)
  write? := write?
  fileAt? := fileAt?
  bytes? := file?

section Write

variable {t t' : FileTree} {p : Path} {bytes : ByteArray}

theorem follow_congr (h : ∀ q, t'.isDirectory q = t.isDirectory q) (dir : Path)
    (names : List String) : t'.follow dir names = t.follow dir names := by
  induction names generalizing dir with
  | nil => rfl
  | cons name names ih => simp only [follow, h, ih]

theorem isGiven_of_not_isDirectory (h : t.isDirectory p = false) : Path.isGiven p = false := by
  cases hgiven : Path.isGiven p with
  | false => rfl
  | true => simp [isDirectory, get?, hgiven] at h

/-- A file in the place of no directory changes no way through the tree. -/
theorem isDirectory_put_file (h : t.isDirectory p = false) (q : Path) :
    (t.put p (.file bytes)).isDirectory q = t.isDirectory q := by
  by_cases hq : p = q
  · subst hq
    rw [isDirectory, get?_put_self t p _ (isGiven_of_not_isDirectory h), h]
  · rw [isDirectory, get?_put_of_ne t _ hq, isDirectory]

/-- What was written is found again under the same path. -/
theorem find?_of_write? {s : String} (h : t.write? s bytes = some t') :
    t'.find? s = some (.file bytes) := by
  unfold write? at h
  split at h
  · cases h
  next hfile =>
  split at h
  · cases h
  next p hp =>
  split at h
  · cases h
  next hdirectory =>
  cases h
  have hdirectory : t.isDirectory p = false := Bool.eq_false_iff.mpr hdirectory
  have hresolve : (t.put p (.file bytes)).resolve? s = some p := by
    rw [← hp, resolve?, resolve?, follow_congr (isDirectory_put_file hdirectory)]
  rw [find?, hresolve]
  simp [hfile, get?_put_self t p _ (isGiven_of_not_isDirectory hdirectory)]

end Write

end FileTree

end ModuleCatalog
