import ModuleCatalog.Text.Blank

/-!
Paths as a system of files reads them: names between slashes, which are followed one by one from the
working directory or, after a slash at the beginning, from the root. Main definitions: the names in
the text of a path (`namesOf`), the text of the directory around it (`parentOf`), and the limits
that the system sets to both (`isShort`, `isName`).
-/
namespace ModuleCatalog

/-- The names on the way from the working directory. A path from the root begins with the name "/",
and a path that leads out of the working directory with the names "..". -/
abbrev Path : Type := List String

namespace Path

def root : Path :=
  ["/"]

/-- Says whether a path leads to the working directory or one above it. -/
def isAbove (p : Path) : Bool :=
  p.all (· == "..")

/-- Says whether a path leads to a directory that is there from the start: the working directory,
one above it, or the root. -/
def isGiven (p : Path) : Bool :=
  p == root || isAbove p

/-- The directory above a directory; the root lies above itself. -/
def up (p : Path) : Path :=
  if p == root then p else if isAbove p then p ++ [".."] else p.dropLast

/-- Says whether the text of a path begins at the root. -/
def isFromRoot (s : String) : Bool :=
  s.toList.head? == some '/'

/-- The directory at which the text of a path begins. -/
def start (s : String) : Path :=
  if isFromRoot s then root else []

def pieces (s : String) : List (List Char) :=
  Text.splitAtEach '/' s.toList

/-- Says whether a piece stays where it is: it is empty or a single dot. -/
def staysThere (piece : List Char) : Bool :=
  piece.isEmpty || piece == ['.']

/-- The names in the text of a path, in the order in which they are followed. -/
def namesOf (s : String) : List String :=
  ((pieces s).filter fun piece => !staysThere piece).map .ofList

/-- Says whether the text of a path can only mean a directory. -/
def meansDirectory (s : String) : Bool :=
  (pieces s).getLast?.any staysThere

/-- The text of the directory that holds what the text of a path names: what stands before its last
name. It is empty for the working directory. -/
def parentOf (s : String) : String :=
  let beforeName := ((pieces s).reverse.dropWhile staysThere).drop 1
  let rest := (beforeName.dropWhile staysThere).reverse
  if rest.isEmpty && isFromRoot s then "/" else .ofList (rest.intersperse ['/']).flatten

/-- Says whether a file or directory can have a name: it takes no more than 255 bytes. -/
def isName (name : String) : Bool :=
  name.utf8ByteSize ≤ 255

/-- Says whether the text of a path is short enough for the system: it takes less than 4096
bytes. -/
def isShort (s : String) : Bool :=
  s.utf8ByteSize < 4096

/-- Says whether a text holds a NUL, which no path may. -/
def holdsNul (s : String) : Bool :=
  s.toList.contains '\x00'

end Path

end ModuleCatalog
