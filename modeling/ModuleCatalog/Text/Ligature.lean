import ModuleCatalog.Text.Ranges
import ModuleCatalog.Text.WidthTable

/-!
Ligatures: letters that stand apart as characters but are shown as one sign, so that together they
take fewer columns than each alone. A text is read backwards, so that a ligature is known by its
last letter. Main definition: what the letter before makes of it (`Ligature.join?`).
-/
namespace ModuleCatalog.Text

def joiner : Char := '\u200D'

/-- The columns of a character in a line where it joins with nothing; a control character is shown
in one. -/
def charWidth (c : Char) : Nat :=
  if c ≤ '\u00A0' then 1
  else if c = '\u17D8' then 3
  else if inRanges zeroWidthRanges c then 0
  else if inRanges wideRanges c then 2
  else 1

/-- The letters at which a ligature may end, and the parts of a ligature with which a third letter
may join. -/
inductive Ligature where
  | arabicAlef
  | hebrewLamed
  | khmerLetter
  | bugineseYa
  | bugineseIYa
  | tifinaghConsonant
  | tifinaghJoinerConsonant
  | lisuTone
  | oldTurkicI
  | kiratRaiE
  | kiratRaiAi
  deriving DecidableEq, Repr

/-- Says whether a character is an Arabic alef of any form. -/
def isAlef (c : Char) : Bool :=
  inRanges [(0x622, 0x623), (0x625, 0x625), (0x627, 0x627), (0x671, 0x673), (0x675, 0x675),
    (0x773, 0x774), (0x870, 0x882)] c

/-- Says whether a character is an Arabic lam of any form. -/
def isLam (c : Char) : Bool :=
  inRanges [(0x644, 0x644), (0x6B5, 0x6B8), (0x76A, 0x76A), (0x8A6, 0x8A6), (0x8C7, 0x8C7)] c

/-- Says whether a character is a Khmer letter that has a subscript form. -/
def isKhmerLetter (c : Char) : Bool :=
  inRanges [(0x1780, 0x1782), (0x1784, 0x1787), (0x1789, 0x178C), (0x178E, 0x1793),
    (0x1795, 0x1798), (0x179B, 0x179D), (0x17A0, 0x17A0), (0x17A2, 0x17A2), (0x17A7, 0x17A7),
    (0x17AB, 0x17AC), (0x17AF, 0x17AF)] c

/-- Says whether a character is a Tifinagh consonant. -/
def isTifinaghConsonant (c : Char) : Bool :=
  inRanges [(0x2D31, 0x2D65), (0x2D6F, 0x2D6F)] c

/-- Says whether a character is a mark that is ignorable by default: it may stand inside a
ligature. -/
def isIgnorableMark (c : Char) : Bool :=
  inRanges [(0x34F, 0x34F), (0x17B4, 0x17B5), (0x180B, 0x180D), (0x180F, 0x180F), (0xFE00, 0xFE0F),
    (0xE0100, 0xE01EF)] c

/-- Says whether a character takes no column and leaves the Arabic letters around it joined. -/
def isTransparent (c : Char) : Bool :=
  charWidth c == 0 && !inRanges partingRanges c

namespace Ligature

def endingAt? (c : Char) : Option Ligature :=
  if isAlef c then some .arabicAlef
  else if c = '\u05DC' then some .hebrewLamed
  else if isKhmerLetter c then some .khmerLetter
  else if c = '\u1A10' then some .bugineseYa
  else if isTifinaghConsonant c then some .tifinaghConsonant
  else if c = '\uA4FC' || c = '\uA4FD' then some .lisuTone
  else if c = Char.ofNat 0x10C03 then some .oldTurkicI
  else if c = Char.ofNat 0x16D67 then some .kiratRaiE
  else if c = Char.ofNat 0x16D68 then some .kiratRaiAi
  else none

/-- What a character right before a ligature makes of it: the columns that the character adds, and
the ligature of both if a further letter may join it. `throughJoiner` says whether a
joiner stands between. -/
def joinLetter? (l : Ligature) (throughJoiner : Bool) (c : Char) : Option (Int × Option Ligature) :=
  match l with
  | .arabicAlef =>
    if isLam c then some (0, none)
    else if isTransparent c then some (0, some .arabicAlef)
    else none
  | .hebrewLamed => if throughJoiner && c == '\u05D0' then some (0, none) else none
  | .khmerLetter => if c = '\u17D2' then some (-1, none) else none
  | .bugineseYa => if throughJoiner && c == '\u1A17' then some (0, some .bugineseIYa) else none
  | .bugineseIYa => if c = '\u1A15' then some (0, none) else none
  | .tifinaghConsonant =>
    if c = '\u2D7F' then some (1, some .tifinaghJoinerConsonant)
    else if throughJoiner && isTifinaghConsonant c then some (0, none)
    else none
  | .tifinaghJoinerConsonant => if isTifinaghConsonant c then some (-1, none) else none
  | .lisuTone => if '\uA4F8' ≤ c && c ≤ '\uA4FB' then some (0, none) else none
  | .oldTurkicI => if throughJoiner && c == Char.ofNat 0x10C32 then some (0, none) else none
  | .kiratRaiE =>
    if c = Char.ofNat 0x16D63 || c = Char.ofNat 0x16D69 then some (0, none)
    else if c = Char.ofNat 0x16D67 then some (0, some .kiratRaiAi)
    else if c = Char.ofNat 0x16D68 then some (1, some .kiratRaiE)
    else none
  | .kiratRaiAi => if c = Char.ofNat 0x16D63 then some (0, none) else none

end Ligature

end ModuleCatalog.Text
