import ModuleCatalog.Text.CaseTable
import ModuleCatalog.Text.Ranges

/-!
Full Unicode lower-casing. Two rules go beyond a character map: a dotted capital I becomes an `i`
with a combining dot, and a capital sigma becomes a final sigma where it ends a word.
-/
namespace ModuleCatalog.Text

/-- Says whether a character is cased and counts as a neighbour of a sigma. -/
def isCased (c : Char) : Bool :=
  inRanges casedRanges c

/-- Says whether a character is skipped when the neighbours of a sigma are looked for. -/
def isCaseIgnorable (c : Char) : Bool :=
  inRanges caseIgnorableRanges c

def CaseRun.contains (r : CaseRun) (n : Nat) : Bool :=
  r.first ≤ n && n ≤ r.last && (n - r.first) % r.stride == 0

/-- The lower case of a character taken alone, where that is one character. -/
def simpleLower (c : Char) : Char :=
  match caseRuns.find? (·.contains c.toNat) with
  | some r => .ofNat (c.toNat + r.shift).toNat
  | none => c

def lowerChar (c : Char) : List Char :=
  if c = '\u0130' then ['i', '\u0307'] else [simpleLower c]

/-- Says whether the nearest character that is not ignorable is cased. -/
def nextIsCased (cs : List Char) : Bool :=
  match cs.dropWhile isCaseIgnorable with
  | [] => false
  | c :: _ => isCased c

/-- The lower case of a sigma between the text before it, read backwards, and the text after it. -/
def lowerSigma (before after : List Char) : Char :=
  if nextIsCased before && !nextIsCased after then '\u03C2' else '\u03C3'

/-- Lower-cases the text that follows `before`, which is read backwards. -/
def lowerAfter (before : List Char) : List Char → List Char
  | [] => []
  | c :: cs =>
    if c = '\u03A3' then lowerSigma before cs :: lowerAfter (c :: before) cs
    else lowerChar c ++ lowerAfter (c :: before) cs

def lower (s : String) : String :=
  .ofList (lowerAfter [] s.toList)

/-- The lower case of the twenty-six capital letters of ASCII; every other character is kept. -/
def lowerAscii (s : String) : String :=
  .ofList (s.toList.map Char.toLower)

end ModuleCatalog.Text
