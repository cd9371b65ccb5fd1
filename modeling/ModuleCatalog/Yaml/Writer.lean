import ModuleCatalog.Text.Hex
import ModuleCatalog.Yaml.Plain
import ModuleCatalog.Yaml.Token

/-!
Writing a text as an item of a block sequence.

The writer takes the first style that the text allows: plain unless the text would be taken for
something else, then single-quoted, and double-quoted where characters have to be escaped. A text
of several lines is a literal block.
-/
namespace ModuleCatalog.Yaml

/-- Says whether a character may be written as it is. -/
def isPrintable (c : Char) : Bool :=
  let n := c.toNat
  n == 0x0A || (0x20 ≤ n && n ≤ 0x7E) || (0xA0 ≤ n && n ≤ 0xD7FF) ||
    (0xE000 ≤ n && n ≤ 0xFFFD && n != 0xFEFF) || 0x10000 ≤ n

/-- Says whether a character breaks lines, the next-line character included. -/
def breaksLine (c : Char) : Bool :=
  isBreak c || c == '\r' || c == '\u0085'

/-- Says whether a text is over or goes on with a blank or any line break. -/
def beforeSpace : List Char → Bool
  | [] => true
  | c :: _ => isBlank c || breaksLine c

/-- Says whether a text begins with characters that have a meaning of their own there. -/
def beginsWithIndicator (cs : List Char) : Bool :=
  match cs with
  | '-' :: '-' :: '-' :: _ => true
  | '.' :: '.' :: '.' :: _ => true
  | c :: rest =>
    "#,[]\x7b\x7d&*!|>'\"%@\x60".toList.contains c || ("?:-".toList.contains c && beforeSpace rest)
  | [] => false

/-- Says whether, after a character, a colon before a space or a hash after a space occurs. -/
def holdsIndicator (before : Char) : List Char → Bool
  | [] => false
  | c :: cs =>
    (c == ':' && beforeSpace cs) || (c == '#' && beforeSpace [before]) || holdsIndicator c cs

/-- Says whether somewhere a character satisfying `p` is followed by one satisfying `q`. -/
def holdsPair (p q : Char → Bool) : List Char → Bool
  | c :: d :: cs => (p c && q d) || holdsPair p q (d :: cs)
  | _ => false

/-- What the characters of a text allow. -/
structure Shape where
  plain : Bool
  single : Bool
  block : Bool
  deriving DecidableEq, Repr

def Shape.of (cs : List Char) : Shape :=
  let space (c : Char) : Bool := c == ' '
  let ends (p : Char → Bool) : Bool := cs.head?.any p || cs.getLast?.any p
  let escaped := cs.any (fun c => !isPrintable c) || holdsPair space breaksLine cs
  let indicators :=
    beginsWithIndicator cs ||
      match cs with
      | c :: rest => holdsIndicator c rest
      | [] => false
  let breakSpace := holdsPair breaksLine space cs
  { plain := !escaped && !indicators && !cs.any breaksLine && !ends space
    single := !escaped && !breakSpace
    block := !escaped && !cs.isEmpty && !cs.getLast?.any space }

def styleFor (cs : List Char) : Style :=
  let shape := Shape.of cs
  if cs.contains '\n' then if shape.block then .literal else .doubleQuoted
  else if !needsQuotes cs && shape.plain then .plain
  else if shape.single then .singleQuoted
  else .doubleQuoted

/-- The hexadecimal digits of a number, capitals, with leading zeros up to a length. -/
def hexDigits (length n : Nat) : List Char :=
  (List.range length).map fun i => Text.capitalHexDigit (n / Nat.pow 16 (length - 1 - i) % 16)

def escapeLetter? : Char → Option Char
  | '\x00' => some '0'
  | '\x07' => some 'a'
  | '\x08' => some 'b'
  | '\t' => some 't'
  | '\n' => some 'n'
  | '\x0b' => some 'v'
  | '\x0c' => some 'f'
  | '\r' => some 'r'
  | '\x1b' => some 'e'
  | '"' => some '"'
  | '\\' => some '\\'
  | '\u0085' => some 'N'
  | '\u2028' => some 'L'
  | '\u2029' => some 'P'
  | _ => none

def doubleQuotedChar (c : Char) : List Char :=
  match escapeLetter? c with
  | some letter => ['\\', letter]
  | none =>
    if isPrintable c then [c]
    else if c.toNat ≤ 0xFF then '\\' :: 'x' :: hexDigits 2 c.toNat
    else if c.toNat ≤ 0xFFFF then '\\' :: 'u' :: hexDigits 4 c.toNat
    else '\\' :: 'U' :: hexDigits 8 c.toNat

def scalarIndent : List Char := [' ', ' ']

/-- The text in single quotes: a quote is written twice, and a line begins with its indentation. -/
def singleQuotedText (afterBreak : Bool) : List Char → List Char
  | [] => if afterBreak then scalarIndent else []
  | c :: cs =>
    if isBreak c then c :: singleQuotedText true cs
    else
      let text := if c = '\'' then ['\'', '\''] else [c]
      (if afterBreak then scalarIndent ++ text else text) ++ singleQuotedText false cs

/-- The lines of a literal block; a line that is not empty begins with its indentation. -/
def literalText (afterBreak : Bool) : List Char → List Char
  | [] => []
  | c :: cs =>
    if isBreak c then c :: literalText true cs
    else (if afterBreak then scalarIndent ++ [c] else [c]) ++ literalText false cs

/-- The signs after the bar of a literal block: a digit if the first line does not show the
indentation, and how the breaks at the end are to be read. -/
def literalSigns (cs : List Char) : List Char :=
  let digit := if cs.head?.any fun c => c == ' ' || isBreak c then ['2'] else []
  let chomp :=
    match cs.reverse with
    | c :: d :: _ => if !isBreak c then ['-'] else if isBreak d then ['+'] else []
    | [c] => if isBreak c then ['+'] else ['-']
    | [] => ['-']
  digit ++ chomp

def scalarText (cs : List Char) : List Char :=
  match styleFor cs with
  | .plain => cs
  | .singleQuoted => '\'' :: singleQuotedText false cs ++ ['\'']
  | .literal => '|' :: literalSigns cs ++ '\n' :: literalText true cs
  | .doubleQuoted | .folded => '"' :: cs.flatMap doubleQuotedChar ++ ['"']

/-- An item of a block sequence, with the break that ends it. -/
def itemText (cs : List Char) : List Char :=
  let text := '-' :: ' ' :: scalarText cs
  if styleFor cs == .literal && cs.getLast?.any isBreak then text else text ++ ['\n']

end ModuleCatalog.Yaml
