import ModuleCatalog.Proofs.IntegerLiterals

/-!
The grammar of JSON, apart from any reader. A tree records how a text spells a value: the pieces of
its strings and the parts of its numbers, which carry the proofs that they are well-formed. Which
trees a text has is said by `Derives`. A tree is a matter of form alone: its value, if it has one,
is `Tree.value?`, which needs a double for every number, a character for every code unit, and a
bound on the nesting.
-/
namespace ModuleCatalog.Json

open Decimal (IsDigits)

def IsHex (c : Char) : Prop :=
  '0' ≤ c ∧ c ≤ '9' ∨ 'a' ≤ c ∧ c ≤ 'f' ∨ 'A' ≤ c ∧ c ≤ 'F'

instance : DecidablePred IsHex := fun _ => inferInstanceAs (Decidable (_ ∨ _))

/-- The hexadecimal digits are the characters that stand for a number. -/
theorem isHex_iff_exists_value {c : Char} : IsHex c ↔ ∃ n, Text.hexValue? c = some n := by
  constructor
  · intro h
    simp only [Text.hexValue?, Bool.and_eq_true, decide_eq_true_eq]
    rcases h with hc | hc | hc
    · exact ⟨_, if_pos hc⟩
    · split <;> exact ⟨_, rfl⟩
    · repeat' split
      all_goals exact ⟨_, rfl⟩
  · rintro ⟨n, h⟩
    unfold Text.hexValue? at h
    split at h
    · next hc => exact .inl (by simpa using hc)
    split at h
    · next hc => exact .inr (.inl (by simpa using hc))
    split at h
    · next hc => exact .inr (.inr (by simpa using hc))
    · cases h

def escapeLetters : List Char := ['"', '\\', '/', 'b', 'f', 'n', 'r', 't']

/-- A piece of a string: a character that stands for itself, an escape of one letter, or a code unit
in four hexadecimal digits. -/
inductive Piece where
  | plain (c : Char) (h : c ≠ '"' ∧ c ≠ '\\' ∧ 0x20 ≤ c.toNat)
  | short (letter : Char) (h : letter ∈ escapeLetters)
  | unit (a b c d : Char) (h : IsHex a ∧ IsHex b ∧ IsHex c ∧ IsHex d)

def Piece.text : Piece → List Char
  | .plain c _ => [c]
  | .short letter _ => ['\\', letter]
  | .unit a b c d _ => ['\\', 'u', a, b, c, d]

def quotedText (pieces : List Piece) : List Char :=
  '"' :: pieces.flatMap Piece.text ++ ['"']

/-- The number in four hexadecimal digits. -/
def codeUnit (a b c d : Char) : Nat :=
  [a, b, c, d].foldl (fun n c => n * 16 + (Text.hexValue? c).getD 0) 0

/-- Says whether a code unit is the first of a pair. -/
def isLeading (unit : Nat) : Bool :=
  0xD800 ≤ unit && unit < 0xDC00

/-- Says whether a code unit is the second of a pair. -/
def isTrailing (unit : Nat) : Bool :=
  0xDC00 ≤ unit && unit < 0xE000

/-- The characters that the pieces of a string stand for, unless a code unit of a pair stands alone.
-/
def decode? : List Piece → Option (List Char)
  | [] => some []
  | .plain c _ :: pieces => (decode? pieces).map (c :: ·)
  | .short letter _ :: pieces =>
    (Reader.shortEscape? letter).bind fun c => (decode? pieces).map (c :: ·)
  | .unit a b c d _ :: .unit a' b' c' d' h :: pieces =>
    let unit := codeUnit a b c d
    let next := codeUnit a' b' c' d'
    if isLeading unit then
      if isTrailing next then
        (decode? pieces).map (.ofNat (0x10000 + (unit - 0xD800) * 0x400 + (next - 0xDC00)) :: ·)
      else none
    else if isTrailing unit then none
    else (decode? (.unit a' b' c' d' h :: pieces)).map (.ofNat unit :: ·)
  | .unit a b c d _ :: pieces =>
    let unit := codeUnit a b c d
    if isLeading unit || isTrailing unit then none
    else (decode? pieces).map (.ofNat unit :: ·)

/-- The exponent of a number. -/
structure Exponent where
  letter : Char
  sign : List Char
  digits : List Char
  isLetter : letter = 'e' ∨ letter = 'E'
  isSign : sign = [] ∨ sign = ['+'] ∨ sign = ['-']
  isDigits : IsDigits digits

/-- A number: a whole part without zeros to lead it, and a fraction and an exponent, if they are
there. -/
structure Numeral where
  negative : Bool
  whole : List Char
  fraction : Option (List Char)
  exponent : Option Exponent
  isWhole : IsDigits whole
  noLeadingZero : whole = ['0'] ∨ whole.head? ≠ some '0'
  isFraction : ∀ ds, fraction = some ds → IsDigits ds

def Exponent.text (e : Exponent) : List Char :=
  e.letter :: e.sign ++ e.digits

def Numeral.text (n : Numeral) : List Char :=
  (if n.negative then ['-'] else []) ++ n.whole ++ (n.fraction.elim [] ('.' :: ·)) ++
    n.exponent.elim [] Exponent.text

def digitValues (ds : List Char) : List Nat :=
  ds.map (·.toNat - 48)

def Exponent.parts (e : Exponent) : Bool × List Nat :=
  (e.sign = ['-'], digitValues e.digits)

def Numeral.literal (n : Numeral) : Literal :=
  ⟨n.negative, digitValues n.whole, n.fraction.elim [] digitValues, n.exponent.map Exponent.parts⟩

/-- The form of a JSON text. -/
inductive Tree where
  | null
  | bool (b : Bool)
  | number (n : Numeral)
  | string (pieces : List Piece)
  | array (items : List Tree)
  | object (members : List (List Piece × Tree))

def Tree.IsObject (t : Tree) : Prop :=
  ∃ members, t = .object members

/-- The value of a tree, given the number of levels to which it may be nested: there is none for a
number beyond every double, for a code unit that stands alone, and for nesting that is too deep. -/
def Tree.value? : Nat → Tree → Option Json
  | _, .null => some .null
  | _, .bool b => some (.bool b)
  | _, .number n => n.literal.value?.map .number
  | _, .string pieces => (decode? pieces).map fun cs => .string (.ofList cs)
  | 0, .array _ => none
  | 0, .object _ => none
  | depth + 1, .array items => (items.mapM (value? depth)).map .array
  | depth + 1, .object members =>
    (members.mapM fun m =>
      (decode? m.1).bind fun key => (value? depth m.2).map (String.ofList key, ·)).map .object

def IsSpace (cs : List Char) : Prop :=
  ∀ c ∈ cs, c ∈ [' ', '\t', '\n', '\r']

instance : DecidablePred IsSpace := fun cs => List.decidableBAll _ cs

theorem isSpace_nil : IsSpace [] :=
  List.forall_mem_nil _

/-- A member of an object in a text: the key between blanks, and the text of the value. -/
structure Member where
  before : List Char
  key : List Piece
  after : List Char
  text : List Char
  tree : Tree
  isSpace : IsSpace before ∧ IsSpace after

def Member.spelling (m : Member) : List Char :=
  m.before ++ quotedText m.key ++ m.after ++ ':' :: m.text

/-- One or more texts with commas between them. -/
def commaJoined (first : List Char) (others : List (List Char)) : List Char :=
  first ++ others.flatMap (',' :: ·)

/-- Says that the grammar derives a text as a tree. -/
inductive Derives : List Char → Tree → Prop where
  | null : Derives ['n', 'u', 'l', 'l'] .null
  | yes : Derives ['t', 'r', 'u', 'e'] (.bool true)
  | no : Derives ['f', 'a', 'l', 's', 'e'] (.bool false)
  | number (n : Numeral) : Derives n.text (.number n)
  | string (pieces : List Piece) : Derives (quotedText pieces) (.string pieces)
  | emptyArray {blank : List Char} (h : IsSpace blank) :
    Derives ('[' :: blank ++ [']']) (.array [])
  | array (first : List Char × Tree) (others : List (List Char × Tree))
    (h : ∀ item ∈ first :: others, Derives item.1 item.2) :
    Derives ('[' :: commaJoined first.1 (others.map (·.1)) ++ [']'])
      (.array ((first :: others).map (·.2)))
  | emptyObject {blank : List Char} (h : IsSpace blank) :
    Derives ('\x7b' :: blank ++ ['\x7d']) (.object [])
  | object (first : Member) (others : List Member) (h : ∀ m ∈ first :: others, Derives m.text m.tree) :
    Derives ('\x7b' :: commaJoined first.spelling (others.map Member.spelling) ++ ['\x7d'])
      (.object ((first :: others).map fun m => (m.key, m.tree)))
  | padded {before text after : List Char} {t : Tree} (hbefore : IsSpace before)
    (hafter : IsSpace after) (h : Derives text t) : Derives (before ++ text ++ after) t

end ModuleCatalog.Json
