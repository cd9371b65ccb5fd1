import ModuleCatalog.Text.EmojiTable
import ModuleCatalog.Text.Ligature

/-!
The number of columns that a line takes on a terminal. Some characters join with those after them
into one sign: emoji with selectors, skin tones, joiners and tags, pairs of regional indicators, and
ligatures. So a line is read backwards, and after every character it is kept in mind what the one
before it may join with. Main definitions: one step of that (`widthStep`) and the sum over a line
(`width`).
-/
namespace ModuleCatalog.Text

def pictureSelector : Char := '\uFE0F'

def textSelector : Char := '\uFE0E'

/-- Says whether a character is a regional indicator; two of them make a flag. -/
def isIndicator (c : Char) : Bool :=
  0x1F1E6 ≤ c.toNat && c.toNat ≤ 0x1F1FF

def isSkinTone (c : Char) : Bool :=
  0x1F3FB ≤ c.toNat && c.toNat ≤ 0x1F3FF

/-- Says whether a character is shown as a picture unless a selector says otherwise. -/
def isPicture (c : Char) : Bool :=
  inRanges pictureRanges c

/-- Says whether a character takes the form of a picture before a selector for it. -/
def takesPictureForm (c : Char) : Bool :=
  inRanges selectableRanges c

/-- Says whether a picture takes the form of a text, of one column, before a selector for it;
ideographs in squares stay as wide as they are. -/
def takesTextForm (c : Char) : Bool :=
  takesPictureForm c && isPicture c && !(0x1F200 ≤ c.toNat && c.toNat ≤ 0x1F2FF)

/-- What a character may join with: the sign that stands right after it. The signs from `joined` on
begin with a joiner and end with a picture, whose columns take in all that joins with it. -/
inductive Sign where
  | other
  | picture
  | skinTone
  | indicators (count : Nat)
  | joined
  | joinedKeycap
  | joinedIndicators (count : Nat)
  | joinedTags (letters digits : Nat)
  | ligature (l : Ligature) (throughJoiner : Bool)
  deriving DecidableEq, Repr

namespace Sign

/-- The sign that a character begins when it joins with nothing. -/
def ofChar (c : Char) : Sign :=
  if isIndicator c then .indicators 1
  else if isSkinTone c then .skinTone
  else if isPicture c then .picture
  else
    match Ligature.endingAt? c with
    | some l => .ligature l false
    | none => .other

/-- What a character makes of tags behind a joiner: a tag sequence has up to six letters, or up to
four and then three digits, and the black flag begins it. -/
def joinTag? (letters digits : Nat) (c : Char) : Option (Int × Sign) :=
  let n := c.toNat
  if 0xE0061 ≤ n && n ≤ 0xE007A && digits == 0 && letters < 6 then
    some (0, .joinedTags (letters + 1) 0)
  else if 0xE0030 ≤ n && n ≤ 0xE0039 && digits < 3 && letters ≤ 4 then
    some (0, .joinedTags letters (digits + 1))
  else if n == 0x1F3F4 && (if digits == 0 then 3 ≤ letters else digits == 3) then
    some (0, .picture)
  else none

/-- What a character makes of a ligature, into which joiners and ignorable marks may be put; with
Arabic letters other characters may. -/
def joinLigature? (l : Ligature) (throughJoiner : Bool) (c : Char) : Option (Int × Sign) :=
  if l != .arabicAlef && c == joiner then some (0, .ligature l true)
  else if l != .arabicAlef && isIgnorableMark c then some (0, .ligature l throughJoiner)
  else
    (l.joinLetter? throughJoiner c).map fun (n, l?) =>
      match l? with
      | some l => (n, .ligature l false)
      | none => (n, .other)

/-- What a character makes of the sign after it, if they join: the columns that it adds and the sign
of both. -/
def join? (s : Sign) (c : Char) : Option (Int × Sign) :=
  match s with
  | .other => none
  | .picture => if c = joiner then some (0, .joined) else none
  | .skinTone =>
    if inRanges skinToneBaseRanges c then some (0, .picture)
    else if c = joiner then some (0, .joined)
    else none
  | .indicators count =>
    if isIndicator c then some (1, .indicators (count + 1))
    else if c == joiner && 2 ≤ count then some (0, .joined)
    else none
  | .joined =>
    if c = '\u20E3' then some (0, .joinedKeycap)
    else if isIndicator c then some (1, .joinedIndicators 1)
    else if isSkinTone c then some (0, .skinTone)
    else if c.toNat = 0xE007F then some (0, .joinedTags 0 0)
    else if isPicture c then some (0, .picture)
    else none
  | .joinedKeycap => none
  | .joinedIndicators count =>
    if isIndicator c then some (if count % 2 = 1 then -1 else 3, .joinedIndicators (count + 1))
    else if c == joiner && 2 ≤ count then some (0, .joined)
    else none
  | .joinedTags letters digits => joinTag? letters digits c
  | .ligature l throughJoiner => joinLigature? l throughJoiner c

end Sign

/-- What stands after a character: a sign, and the selectors before it. -/
structure Following where
  sign : Sign
  asPicture : Bool
  asText : Bool
  deriving DecidableEq, Repr

namespace Following

def ofSign (s : Sign) : Following :=
  ⟨s, false, false⟩

/-- Adds a selector for the form of a picture, behind which only ligatures and what begins with a
joiner are kept in mind. -/
def addPictureSelector (f : Following) : Following :=
  match f.sign with
  | .ligature _ _ => { f with asPicture := true }
  | .joined => ⟨.joined, true, false⟩
  | .joinedKeycap => ⟨.joinedKeycap, true, false⟩
  | _ => ⟨.other, true, false⟩

/-- Adds a selector for the form of a text, behind which only ligatures are kept in mind. -/
def addTextSelector (f : Following) : Following :=
  match f.sign with
  | .ligature _ _ => { f with asText := true }
  | _ => ⟨.other, false, true⟩

/-- What is left when the character before a selector for a picture cannot take that form. -/
def dropPictureSelector (f : Following) : Following :=
  if f.asPicture then
    match f.sign with
    | .ligature _ _ => { f with asPicture := false }
    | _ => ofSign .other
  else f

/-- Says whether a picture before the selector joins with what follows. -/
def isJoined (f : Following) : Bool :=
  f.sign == .joined || f.sign == .joinedKeycap

end Following

/-- The columns that a character adds to a line, given what follows it, and what both are for the
character before. -/
def widthStep (c : Char) (f : Following) : Int × Following :=
  if f.asPicture && takesPictureForm c then (if f.isJoined then 0 else 2, .ofSign .picture)
  else
    let f := f.dropPictureSelector
    if c ≤ '\u00A0' then (1, .ofSign .other)
    else if c = pictureSelector then (0, f.addPictureSelector)
    else if c = textSelector then (0, f.addTextSelector)
    else if f.asText && takesTextForm c then (1, .ofSign .other)
    else
      match f.sign.join? c with
      | some (n, s) => (n, .ofSign s)
      | none => (charWidth c, .ofSign (Sign.ofChar c))

def width (cs : List Char) : Nat :=
  let step (c : Char) (sum : Int × Following) : Int × Following :=
    let (n, f) := widthStep c sum.2
    (sum.1 + n, f)
  (cs.foldr step (0, .ofSign .other)).1.toNat

end ModuleCatalog.Text
