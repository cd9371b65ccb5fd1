/-!
The characters of a YAML stream, and the place that a reader has come to.

Line breaks are made uniform before anything else is read: a carriage return, alone or before a
line feed, and the next-line character all become a line feed. The line and paragraph separators
break lines too, but keep their identity.
-/
namespace ModuleCatalog.Yaml

/-- Says whether a character may stand in a stream. -/
def isAllowed (c : Char) : Bool :=
  let n := c.toNat
  n == 0x09 || n == 0x0A || n == 0x0D || (0x20 ≤ n && n ≤ 0x7E) || n == 0x85 ||
    (0xA0 ≤ n && n ≤ 0xD7FF) || (0xE000 ≤ n && n ≤ 0xFFFD) || 0x10000 ≤ n

def uniformBreaks : List Char → List Char
  | '\r' :: '\n' :: cs => '\n' :: uniformBreaks cs
  | '\r' :: cs => '\n' :: uniformBreaks cs
  | c :: cs => (if c = '\u0085' then '\n' else c) :: uniformBreaks cs
  | [] => []

def isBlank (c : Char) : Bool :=
  c == ' ' || c == '\t'

/-- Says whether a character ends a line, once line breaks are uniform. -/
def isBreak (c : Char) : Bool :=
  c == '\n' || c == '\u2028' || c == '\u2029'

/-- Says whether a text is over or goes on with a blank or a line break. -/
def atSpace : List Char → Bool
  | [] => true
  | c :: _ => isBlank c || isBreak c

/-- Says whether a character can stand in the names of anchors, directives and tag handles. -/
def isWordChar (c : Char) : Bool :=
  c.isAlphanum || c == '_' || c == '-'

/-- Says whether a text begins with the mark that starts or ends a document. -/
def atDocumentMark : List Char → Bool
  | '-' :: '-' :: '-' :: cs => atSpace cs
  | '.' :: '.' :: '.' :: cs => atSpace cs
  | _ => false

/-- A place in the stream: the number of line breaks before it, and the characters and the bytes
between the beginning of its line and it. -/
structure Place where
  line : Nat
  column : Nat
  bytes : Nat
  deriving DecidableEq, Repr

namespace Place

def start : Place :=
  ⟨0, 0, 0⟩

def past (p : Place) (c : Char) : Place :=
  if isBreak c then ⟨p.line + 1, 0, 0⟩ else ⟨p.line, p.column + 1, p.bytes + c.utf8Size⟩

@[simp]
theorem past_break (p : Place) {c : Char} (h : isBreak c = true) :
    p.past c = ⟨p.line + 1, 0, 0⟩ := by
  simp [past, h]

theorem past_inLine (p : Place) {c : Char} (h : isBreak c = false) :
    p.past c = ⟨p.line, p.column + 1, p.bytes + c.utf8Size⟩ := by
  simp [past, h]

theorem past_column_ne_zero (p : Place) {c : Char} (h : isBreak c = false) :
    (p.past c).column ≠ 0 := by
  simp [past, h]

theorem line_le_past (p : Place) (c : Char) : p.line ≤ (p.past c).line := by
  unfold past
  split <;> simp

theorem line_le_foldl_past (p : Place) (cs : List Char) : p.line ≤ (cs.foldl past p).line := by
  induction cs generalizing p with
  | nil => exact Nat.le_refl _
  | cons c cs ih => exact Nat.le_trans (p.line_le_past c) (ih (p.past c))

theorem column_foldl_past (p : Place) {cs : List Char} (h : ∀ c ∈ cs, isBreak c = false) :
    (cs.foldl past p).column = p.column + cs.length := by
  induction cs generalizing p with
  | nil => rfl
  | cons c cs ih =>
    have hcolumn : (p.past c).column = p.column + 1 := by
      rw [p.past_inLine (h c List.mem_cons_self)]
    rw [List.foldl_cons, ih (p.past c) fun d hd => h d (List.mem_cons_of_mem _ hd), hcolumn,
      List.length_cons]
    omega

end Place

/-- What is left to read, and where in the stream it stands. -/
structure Cursor where
  rest : List Char
  place : Place
  deriving DecidableEq, Repr

namespace Cursor

def column (c : Cursor) : Nat :=
  c.place.column

def skip (c : Cursor) (n : Nat) : Cursor :=
  ⟨c.rest.drop n, (c.rest.take n).foldl .past c.place⟩

/-- Reads the longest run of characters that satisfy `p`. -/
def takeWhile (p : Char → Bool) (c : Cursor) : List Char × Cursor :=
  let run := c.rest.takeWhile p
  (run, c.skip run.length)

def skipBlanks (c : Cursor) : Cursor :=
  (c.takeWhile isBlank).2

def skipToBreak (c : Cursor) : Cursor :=
  (c.takeWhile fun x => !isBreak x).2

/-- Goes past blanks and a comment, which have to fill the line, and past its break. -/
def endLine? (c : Cursor) : Option Cursor :=
  let c := c.skipBlanks
  let c := if c.rest.head? = some '#' then c.skipToBreak else c
  match c.rest with
  | [] => some c
  | x :: _ => if isBreak x then some (c.skip 1) else none

end Cursor

end ModuleCatalog.Yaml
