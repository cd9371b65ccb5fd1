import ModuleCatalog.Text.Hex
import ModuleCatalog.Yaml.Text

/-!
Plain and quoted scalars. Both may run over several lines: a single line break between two words
becomes a space, and of several breaks the first is dropped.
-/
namespace ModuleCatalog.Yaml

/-- The blanks and breaks read since the last character of a scalar, both backwards. After a
`joined` line break, one escaped by a backslash, no break is dropped. -/
structure Gap where
  blanks : List Char
  breaks : List Char
  joined : Bool
  deriving DecidableEq, Repr

namespace Gap

def none : Gap :=
  ⟨[], [], false⟩

def isEmpty (g : Gap) : Bool :=
  g.blanks.isEmpty && g.breaks.isEmpty && !g.joined

/-- Says whether the gap has gone past the end of a line. -/
def crossesLine (g : Gap) : Bool :=
  !g.breaks.isEmpty || g.joined

/-- Adds a blank; at the beginning of a line it does not count. -/
def addBlank (g : Gap) (c : Char) : Gap :=
  if g.crossesLine then g else { g with blanks := c :: g.blanks }

/-- Adds a line break; blanks before it do not count. -/
def addBreak (g : Gap) (c : Char) : Gap :=
  { g with blanks := [], breaks := c :: g.breaks }

/-- What the gap amounts to in the value of the scalar. -/
def folded (g : Gap) : List Char :=
  if g.joined then g.breaks.reverse
  else
    match g.breaks.reverse with
    | [] => g.blanks.reverse
    | ['\n'] => [' ']
    | '\n' :: more => more
    | breaks => breaks

/-- Appends the gap and a text to what has been read, which stands backwards. -/
def appendTo (g : Gap) (read text : List Char) : List Char :=
  text.reverse ++ (g.folded.reverse ++ read)

end Gap

/-- A scalar as it is read: its value, whether it went on to a new line at its end, and where the
reader has come to. -/
structure Scanned where
  value : List Char
  crossedLine : Bool
  cursor : Cursor
  deriving DecidableEq, Repr

/-- Says whether a character ends a plain scalar in a flow collection. -/
def endsFlowScalar (c : Char) : Bool :=
  c == ',' || c == '[' || c == ']' || c == '\x7b' || c == '\x7d'

/-- Says whether a plain scalar ends before the character, which is not blank. -/
def plainEnds (flow : Bool) (indent : Int) (column : Nat) (gap : Gap) (c : Char)
    (cs : List Char) : Bool :=
  (!gap.isEmpty && ((!flow && column < indent) || (column == 0 && atDocumentMark (c :: cs)) ||
    c == '#')) ||
  (c == ':' && atSpace cs) || (flow && endsFlowScalar c)

/-- Says whether a colon stands in a flow collection where it can neither end a key nor belong to a
plain scalar. -/
def strayColon (flow : Bool) (c : Char) (cs : List Char) : Bool :=
  flow && c == ':' &&
    match cs with
    | d :: _ => endsFlowScalar d || d == '?'
    | [] => false

/-- Reads a plain scalar, whose continuation lines are indented at least by `indent`. -/
def plainScalar (flow : Bool) (indent : Int) (place : Place) (gap : Gap) (read : List Char) :
    List Char → Option Scanned
  | [] => some ⟨read.reverse, gap.crossesLine, ⟨[], place⟩⟩
  | c :: cs =>
    if isBlank c then
      if gap.crossesLine && place.column < indent && c == '\t' then none
      else plainScalar flow indent (place.past c) (gap.addBlank c) read cs
    else if isBreak c then plainScalar flow indent (place.past c) (gap.addBreak c) read cs
    else if plainEnds flow indent place.column gap c cs then
      some ⟨read.reverse, gap.crossesLine, ⟨c :: cs, place⟩⟩
    else if strayColon flow c cs then none
    else plainScalar flow indent (place.past c) .none (gap.appendTo read [c]) cs

/-- The value of a run of hexadecimal digits of the given length at the front of a text. -/
def hexNumber? : Nat → Nat → List Char → Option Nat
  | 0, value, _ => some value
  | _ + 1, _, [] => none
  | n + 1, value, c :: cs =>
    match Text.hexValue? c with
    | some d => hexNumber? n (value * 16 + d) cs
    | none => none

/-- The character with a code point given by hexadecimal digits. -/
def codePoint? (digits : Nat) (cs : List Char) : Option Char :=
  match hexNumber? digits 0 cs with
  | some n => if (0xD800 ≤ n && n < 0xE000) || 0x10FFFF < n then none else some (.ofNat n)
  | none => none

def shortEscape? : Char → Option Char
  | '0' => some '\x00'
  | 'a' => some '\x07'
  | 'b' => some '\x08'
  | 't' => some '\t'
  | '\t' => some '\t'
  | 'n' => some '\n'
  | 'v' => some '\x0b'
  | 'f' => some '\x0c'
  | 'r' => some '\r'
  | 'e' => some '\x1b'
  | ' ' => some ' '
  | '"' => some '"'
  | '/' => some '/'
  | '\\' => some '\\'
  | 'N' => some '\u0085'
  | '_' => some '\u00A0'
  | 'L' => some '\u2028'
  | 'P' => some '\u2029'
  | _ => none

/-- The number of hexadecimal digits that follow a letter. -/
def escapeDigits? : Char → Option Nat
  | 'x' => some 2
  | 'u' => some 4
  | 'U' => some 8
  | _ => none

/-- The character of an escape and the number of characters after the backslash that spell it. -/
def escape? : List Char → Option (Char × Nat)
  | [] => none
  | c :: cs =>
    match shortEscape? c with
    | some d => some (d, 1)
    | none =>
      match escapeDigits? c with
      | some n => (codePoint? n cs).map (·, n + 1)
      | none => none

/-- Reads a quoted scalar after its opening quote. The first `passed` characters have been read as
part of an escape. -/
def quotedScalar (single : Bool) (place : Place) (gap : Gap) (read : List Char) (passed : Nat) :
    List Char → Option Scanned
  | [] => none
  | c :: cs =>
    let next := place.past c
    match passed with
    | n + 1 => quotedScalar single next gap read n cs
    | 0 =>
      if isBlank c then quotedScalar single next (gap.addBlank c) read 0 cs
      else if isBreak c then quotedScalar single next (gap.addBreak c) read 0 cs
      else if place.column == 0 && atDocumentMark (c :: cs) then none
      else if single && c == '\'' then
        if cs.head? = some '\'' then
          quotedScalar single next .none (gap.appendTo read ['\'']) 1 cs
        else some ⟨(gap.appendTo read []).reverse, false, ⟨cs, next⟩⟩
      else if !single && c == '"' then
        some ⟨(gap.appendTo read []).reverse, false, ⟨cs, next⟩⟩
      else if !single && c == '\\' then
        if cs.head?.any isBreak then
          quotedScalar single next ⟨[], [], true⟩ (gap.appendTo read []) 1 cs
        else
          match escape? cs with
          | some (d, n) => quotedScalar single next .none (gap.appendTo read [d]) n cs
          | none => none
      else quotedScalar single next .none (gap.appendTo read [c]) 0 cs

end ModuleCatalog.Yaml
