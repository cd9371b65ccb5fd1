import ModuleCatalog.Yaml.Block
import ModuleCatalog.Yaml.Tag

/-!
Splitting a YAML stream into tokens.

Block structure is told by indentation, and a mapping key only by the colon after it. So the lexer
remembers, for every level of flow collections, where a key may have begun; when a colon follows on
the same line, the key token and, if the line is indented further, the start of a block mapping are
put in at that place.
-/
namespace ModuleCatalog.Yaml

/-- A place where a key may have begun: the number of tokens before it, and where it stands. A
needed key is the only way to go on, so that losing it is an error. -/
structure KeyPlace where
  needed : Bool
  tokenCount : Nat
  place : Place
  deriving DecidableEq, Repr

/-- The lexer between two tokens. The tokens stand newest first; `key` is the place on the current
level, `outerKeys` those on the levels around it, the innermost first; `keyAllowed` says whether a
key may begin here. -/
structure Lexer where
  cursor : Cursor
  tokens : List Token
  tokenCount : Nat
  indent : Int
  outerIndents : List Int
  key : Option KeyPlace
  outerKeys : List (Option KeyPlace)
  keyAllowed : Bool
  deriving DecidableEq, Repr

namespace Lexer

def start (cs : List Char) : Lexer where
  cursor := ⟨cs, .start⟩
  tokens := []
  tokenCount := 0
  indent := -1
  outerIndents := []
  key := none
  outerKeys := []
  keyAllowed := true

/-- Says whether the lexer is inside a flow collection. -/
def inFlow (l : Lexer) : Bool :=
  !l.outerKeys.isEmpty

def push (l : Lexer) (t : Token) : Lexer :=
  { l with tokens := t :: l.tokens, tokenCount := l.tokenCount + 1 }

def insert (l : Lexer) (n : Nat) (t : Token) : Lexer :=
  { l with
    tokens := l.tokens.insertIdx (l.tokenCount - n) t
    tokenCount := l.tokenCount + 1 }

/-- Opens a block collection at a column that is further in than the current one; its start is put
in after the first `n` tokens. -/
def openBlock (l : Lexer) (column n : Nat) (t : Token) : Lexer :=
  if !l.inFlow && l.indent < column then
    { l.insert n t with indent := column, outerIndents := l.indent :: l.outerIndents }
  else l

/-- The indentation after closing all block collections that are further in than a column, and
their number. -/
def closings (column : Int) : Int → List Int → Nat × Int × List Int
  | indent, [] => (0, indent, [])
  | indent, outer :: outers =>
    if column < indent then
      let (n, rest) := closings column outer outers
      (n + 1, rest)
    else (0, indent, outer :: outers)

/-- Closes all block collections that are further in than a column. -/
def closeBlocks (l : Lexer) (column : Int) : Lexer :=
  if l.inFlow then l
  else
    let (n, indent, outers) := closings column l.indent l.outerIndents
    { l with
      tokens := List.replicate n .blockEnd ++ l.tokens
      tokenCount := l.tokenCount + n
      indent := indent
      outerIndents := outers }

/-- Gives up the place of a key, unless the key is needed. -/
def dropKey? (l : Lexer) : Option Lexer :=
  if l.key.any (·.needed) then none else some { l with key := none }

def markKey? (l : Lexer) : Option Lexer :=
  if l.keyAllowed then do
    let needed := !l.inFlow && l.indent == l.cursor.column
    let l ← l.dropKey?
    some { l with key := some ⟨needed, l.tokenCount, l.cursor.place⟩ }
  else some l

/-- Says whether a key that began at a place cannot end here any more: keys take one line, and no
more than 1024 bytes of it. -/
def isStale (l : Lexer) (k : KeyPlace) : Bool :=
  let here := l.cursor.place
  k.place.line < here.line || k.place.bytes + 1024 < here.bytes

/-- Gives up the places of keys that cannot end here any more. -/
def dropStale? (l : Lexer) : Option Lexer :=
  let stale (k : Option KeyPlace) : Bool := k.any l.isStale
  let keys := l.key :: l.outerKeys
  if !keys.any stale then some l
  else if keys.any fun k => stale k && k.any (·.needed) then none
  else
    let fresh (k : Option KeyPlace) : Option KeyPlace := if stale k then none else k
    some { l with key := fresh l.key, outerKeys := l.outerKeys.map fresh }

/-- Says whether a character outside comments separates tokens and ends no line. Tabs do so only
where no indentation is told by them, and a byte order mark at the beginning of a line. -/
def isSeparator (flow keyAllowed : Bool) (place : Place) (c : Char) : Bool :=
  c == ' ' || ((flow || !keyAllowed) && c == '\t') || (place.column == 0 && c == '\uFEFF')

/-- Goes past separators, comments and line breaks; on a new line of a block a key may begin. -/
def skipSpace (flow : Bool) : Bool → Bool → Place → List Char → Bool × Cursor
  | keyAllowed, _, place, [] => (keyAllowed, ⟨[], place⟩)
  | keyAllowed, inComment, place, c :: cs =>
    if isBreak c then skipSpace flow (keyAllowed || !flow) false (place.past c) cs
    else if inComment || isSeparator flow keyAllowed place c then
      skipSpace flow keyAllowed inComment (place.past c) cs
    else if c == '#' then skipSpace flow keyAllowed true (place.past c) cs
    else (keyAllowed, ⟨c :: cs, place⟩)

/-- Goes to the next token and closes what ends before it. -/
def approach? (l : Lexer) : Option Lexer := do
  let (keyAllowed, cursor) :=
    skipSpace l.inFlow l.keyAllowed false l.cursor.place l.cursor.rest
  let l ← { l with keyAllowed := keyAllowed, cursor := cursor }.dropStale?
  some (l.closeBlocks l.cursor.column)

def take (l : Lexer) (n : Nat) (t : Token) : Lexer :=
  { l with cursor := l.cursor.skip n }.push t

/-- Ends all block collections, as documents and the stream do. -/
def leaveDocument? (l : Lexer) : Option Lexer := do
  let l ← (l.closeBlocks (-1)).dropKey?
  some { l with keyAllowed := false }

def directive? (l : Lexer) : Option Lexer := do
  let l ← l.leaveDocument?
  let (token, cursor) ← Yaml.directive? l.cursor
  some ({ l with cursor := cursor }.push token)

/-- Reads the mark at the start or the end of a document. -/
def documentMark? (l : Lexer) (t : Token) : Option Lexer := do
  let l ← l.leaveDocument?
  some (l.take 3 t)

def openFlow? (l : Lexer) (t : Token) : Option Lexer := do
  let l ← l.markKey?
  some ({ l with outerKeys := l.key :: l.outerKeys, key := none, keyAllowed := true }.take 1 t)

def closeFlow? (l : Lexer) (t : Token) : Option Lexer := do
  let l ← l.dropKey?
  let l :=
    match l.outerKeys with
    | [] => l
    | k :: ks => { l with key := k, outerKeys := ks }
  some ({ l with keyAllowed := false }.take 1 t)

def flowEntry? (l : Lexer) : Option Lexer := do
  let l ← l.dropKey?
  some ({ l with keyAllowed := true }.take 1 .flowEntry)

/-- Opens a block collection for an indicator, which has to stand where a key may begin. -/
def openForIndicator? (l : Lexer) (t : Token) : Option Lexer :=
  if l.inFlow then some l
  else if l.keyAllowed then some (l.openBlock l.cursor.column l.tokenCount t)
  else none

def blockEntry? (l : Lexer) : Option Lexer := do
  let l ← l.openForIndicator? .blockSequenceStart
  let l ← l.dropKey?
  some ({ l with keyAllowed := true }.take 1 .blockEntry)

def keyMark? (l : Lexer) : Option Lexer := do
  let l ← l.openForIndicator? .blockMappingStart
  let l ← l.dropKey?
  some ({ l with keyAllowed := !l.inFlow }.take 1 .key)

/-- Reads the colon after a key; if a key may have begun before it, that was a key. -/
def value? (l : Lexer) : Option Lexer :=
  match l.key with
  | some k =>
    let l := (l.insert k.tokenCount .key).openBlock k.place.column k.tokenCount .blockMappingStart
    some ({ l with key := none, keyAllowed := false }.take 1 .value)
  | none => do
    let l ← l.openForIndicator? .blockMappingStart
    some ({ l with keyAllowed := !l.inFlow }.take 1 .value)

def anchor? (l : Lexer) (make : List Char → Token) : Option Lexer := do
  let l ← l.markKey?
  let (name, cursor) ← anchorName? (l.cursor.skip 1)
  some ({ l with cursor := cursor, keyAllowed := false }.push (make name))

def tag? (l : Lexer) : Option Lexer := do
  let l ← l.markKey?
  let (token, cursor) ← Yaml.tag? l.inFlow l.cursor
  some ({ l with cursor := cursor, keyAllowed := false }.push token)

def blockScalar? (l : Lexer) (style : Style) : Option Lexer := do
  let l ← l.dropKey?
  let s ← blockScalar (style == .literal) l.indent (l.cursor.skip 1)
  some ({ l with cursor := s.cursor, keyAllowed := true }.push (.scalar style s.value))

def quotedScalar? (l : Lexer) (style : Style) : Option Lexer := do
  let l ← l.markKey?
  let c := l.cursor.skip 1
  let s ← quotedScalar (style == .singleQuoted) c.place .none [] 0 c.rest
  some ({ l with cursor := s.cursor, keyAllowed := false }.push (.scalar style s.value))

/-- Reads a plain scalar; after one that went on to a new line a key may begin. -/
def plainScalar? (l : Lexer) : Option Lexer := do
  let l ← l.markKey?
  let c := l.cursor
  let s ← plainScalar l.inFlow (l.indent + 1) c.place .none [] c.rest
  some ({ l with cursor := s.cursor, keyAllowed := s.crossedLine }.push (.scalar .plain s.value))

/-- Says whether a plain scalar can begin with a character that is followed by a text. -/
def beginsPlain (flow : Bool) (c : Char) (cs : List Char) : Bool :=
  !("-?:,[]\x7b\x7d#&*!|>'\"%@\x60".toList.contains c || isBlank c || isBreak c) ||
    (c == '-' && !(cs.head?.any isBlank)) || (!flow && (c == '?' || c == ':') && !atSpace cs)

def readToken? (l : Lexer) (c : Char) (cs : List Char) : Option Lexer :=
  let atMargin := l.cursor.column == 0
  let flow := l.inFlow
  if atMargin && c == '%' then l.directive?
  else if atMargin && atDocumentMark (c :: cs) then
    l.documentMark? (if c == '-' then .documentStart else .documentEnd)
  else if c == '[' then l.openFlow? .flowSequenceStart
  else if c == '\x7b' then l.openFlow? .flowMappingStart
  else if c == ']' then l.closeFlow? .flowSequenceEnd
  else if c == '\x7d' then l.closeFlow? .flowMappingEnd
  else if c == ',' then l.flowEntry?
  else if c == '-' && atSpace cs then l.blockEntry?
  else if c == '?' && (flow || atSpace cs) then l.keyMark?
  else if c == ':' && (flow || atSpace cs) then l.value?
  else if c == '*' then l.anchor? .alias
  else if c == '&' then l.anchor? .anchor
  else if c == '!' then l.tag?
  else if c == '|' && !flow then l.blockScalar? .literal
  else if c == '>' && !flow then l.blockScalar? .folded
  else if c == '\'' then l.quotedScalar? .singleQuoted
  else if c == '"' then l.quotedScalar? .doubleQuoted
  else if beginsPlain flow c cs then l.plainScalar?
  else none

/-- Reads all tokens; every token takes at least one character, so that as many steps as there are
characters suffice. -/
def run? : Nat → Lexer → Option Lexer
  | 0, _ => none
  | steps + 1, l =>
    match l.approach? with
    | none => none
    | some l =>
      match l.cursor.rest with
      | [] => l.leaveDocument?
      | c :: cs =>
        match l.readToken? c cs with
        | none => none
        | some l => run? steps l

end Lexer

/-- The tokens of a stream, or nothing if the stream cannot be split into tokens. -/
def tokens? (text : List Char) : Option (List Token) :=
  if text.all isAllowed then
    let cs := uniformBreaks text
    ((Lexer.start cs).run? (cs.length + 1)).map fun l => l.tokens.reverse
  else none

end ModuleCatalog.Yaml
