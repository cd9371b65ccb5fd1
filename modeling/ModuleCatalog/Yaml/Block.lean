import ModuleCatalog.Yaml.Folding

/-!
Block scalars: a header that says how line breaks are treated, and lines indented further than
their surroundings.
-/
namespace ModuleCatalog.Yaml

/-- What happens to the line breaks at the end of a block scalar. -/
inductive Chomp where
  | strip
  | clip
  | keep
  deriving DecidableEq, Repr

/-- The header of a block scalar; an indentation of zero is still to be found out. -/
structure BlockHeader where
  literal : Bool
  chomp : Chomp
  indent : Nat
  deriving DecidableEq, Repr

def chompSign? : Char → Option Chomp
  | '+' => some .keep
  | '-' => some .strip
  | _ => none

def indentDigit? (c : Char) : Option Nat :=
  if '1' ≤ c && c ≤ '9' then some (c.toNat - 48) else none

/-- Reads the signs of a header: a sign and a digit in any order, each at most once. -/
def headerSigns? (cs : List Char) : Option (Chomp × Nat × Nat) :=
  match cs with
  | c :: d :: _ =>
    match chompSign? c with
    | some chomp =>
      if d.isDigit then (indentDigit? d).map (chomp, ·, 2) else some (chomp, 0, 1)
    | none =>
      if c.isDigit then
        (indentDigit? c).map fun n =>
          match chompSign? d with
          | some chomp => (chomp, n, 2)
          | none => (.clip, n, 1)
      else some (.clip, 0, 0)
  | [c] =>
    match chompSign? c with
    | some chomp => some (chomp, 0, 1)
    | none => if c.isDigit then (indentDigit? c).map (.clip, ·, 1) else some (.clip, 0, 0)
  | [] => some (.clip, 0, 0)

/-- What has been read of a block scalar. While `indent` is zero the indentation is taken from the
first line that is not empty; `widest` is the widest run of spaces so far. -/
structure BlockState where
  indent : Nat
  widest : Nat
  lastBreak : List Char
  emptyBreaks : List Char
  lastBlank : Bool
  read : List Char
  deriving DecidableEq, Repr

namespace BlockState

/-- The state at the beginning of a line whose first character is known: the breaks before the line
join the value, where in a folded scalar a single break between two unindented lines is a space. -/
def startLine (literal : Bool) (s : BlockState) (c : Char) : BlockState :=
  let folds := !literal && s.lastBreak == ['\n'] && !s.lastBlank && !isBlank c
  let breaks :=
    if folds then (if s.emptyBreaks.isEmpty then [' '] else s.emptyBreaks)
    else s.emptyBreaks ++ s.lastBreak
  { s with lastBreak := [], emptyBreaks := [], lastBlank := isBlank c, read := breaks ++ s.read }

/-- The value of the scalar once its last line is read. -/
def finish (chomp : Chomp) (s : BlockState) : List Char :=
  let last := if chomp == .strip then [] else s.lastBreak
  let rest := if chomp == .keep then s.emptyBreaks else []
  (rest ++ (last ++ s.read)).reverse

/-- The indentation, once the first line that is not empty has been reached. -/
def settle (parent : Int) (s : BlockState) : BlockState :=
  if s.indent = 0 then { s with indent := max (max s.widest (parent + 1).toNat) 1 } else s

end BlockState

/-- Reads the lines of a block scalar. Before the first character of a line, `inLine` is false and
its indentation is being read. -/
def blockLines (h : BlockHeader) (parent : Int) (inLine : Bool) (place : Place) (s : BlockState) :
    List Char → Option Scanned
  | [] => some ⟨s.finish h.chomp, false, ⟨[], place⟩⟩
  | c :: cs =>
    let next := place.past c
    if inLine then
      if isBreak c then blockLines h parent false next { s with lastBreak := [c] } cs
      else blockLines h parent true next { s with read := c :: s.read } cs
    else
      let inIndent := s.indent = 0 || place.column < s.indent
      if inIndent && c == ' ' then blockLines h parent false next s cs
      else if inIndent && c == '\t' then none
      else
        let s := { s with widest := max s.widest place.column }
        if isBreak c then
          blockLines h parent false next { s with emptyBreaks := c :: s.emptyBreaks } cs
        else
          let s := s.settle parent
          if place.column = s.indent then
            let s := s.startLine h.literal c
            blockLines h parent true next { s with read := c :: s.read } cs
          else some ⟨s.finish h.chomp, false, ⟨c :: cs, place⟩⟩

/-- Reads a block scalar after its indicator; `parent` is the indentation around it. -/
def blockScalar (literal : Bool) (parent : Int) (c : Cursor) : Option Scanned := do
  let (chomp, increment, n) ← headerSigns? c.rest
  let c ← (c.skip n).endLine?
  let indent := if increment = 0 then 0 else (if 0 ≤ parent then parent.toNat else 0) + increment
  blockLines ⟨literal, chomp, indent⟩ parent false c.place ⟨indent, 0, [], [], false, []⟩ c.rest

end ModuleCatalog.Yaml
