import ModuleCatalog.Yaml.Folding
import ModuleCatalog.Yaml.Token

/-!
Tokens that are words after an indicator: anchors, aliases, tags and directives.
-/
namespace ModuleCatalog.Yaml

/-- Says whether an anchor or alias may end before a text. -/
def endsAnchor : List Char → Bool
  | [] => true
  | c :: cs => atSpace (c :: cs) || "?:,]\x7d%@\x60".toList.contains c

/-- Reads the name of an anchor or alias after its indicator. -/
def anchorName? (c : Cursor) : Option (List Char × Cursor) :=
  let (name, c) := c.takeWhile isWordChar
  if name.isEmpty || !endsAnchor c.rest then none else some (name, c)

/-- Says whether a character can stand in a tag without being escaped; in a tag between angle
brackets more characters can. -/
def isTagChar (verbatim : Bool) (c : Char) : Bool :=
  isWordChar c || ";/?:@&=+$.%!~*'()".toList.contains c || (verbatim && ",[]".toList.contains c)

/-- The number of bytes of the character that a byte begins. -/
def encodedLength? (b : Nat) : Option Nat :=
  if b < 0x80 then some 1
  else if 0xC0 ≤ b && b < 0xE0 then some 2
  else if 0xE0 ≤ b && b < 0xF0 then some 3
  else if 0xF0 ≤ b && b < 0xF8 then some 4
  else none

/-- Reads the characters of a tag as bytes. After an escape that begins a character, `due` more
escaped bytes have to follow; the first `passed` characters have been read as part of an escape. -/
def tagBytes? (verbatim : Bool) (due passed : Nat) (read : List UInt8) :
    List Char → Option (List UInt8 × List Char)
  | [] => if due = 0 then some (read.reverse, []) else none
  | c :: cs =>
    match passed with
    | n + 1 => tagBytes? verbatim due n read cs
    | 0 =>
      if c = '%' then
        match hexNumber? 2 0 cs with
        | none => none
        | some b =>
          if due = 0 then
            match encodedLength? b with
            | some n => tagBytes? verbatim (n - 1) 2 (.ofNat b :: read) cs
            | none => none
          else if 0x80 ≤ b && b < 0xC0 then tagBytes? verbatim (due - 1) 2 (.ofNat b :: read) cs
          else none
      else if due ≠ 0 then none
      else if isTagChar verbatim c then
        tagBytes? verbatim 0 0 (.ofNat c.toNat :: read) cs
      else some (read.reverse, c :: cs)

/-- Reads a tag's text after what has been read as its beginning; together they are not empty. -/
def tagText? (verbatim : Bool) (beginning : List Char) (c : Cursor) :
    Option (List UInt8 × Cursor) :=
  match tagBytes? verbatim 0 0 [] c.rest with
  | none => none
  | some (bytes, rest) =>
    if beginning.isEmpty && bytes.isEmpty then none
    else
      some ((beginning.drop 1).map (fun x => UInt8.ofNat x.toNat) ++ bytes,
        c.skip (c.rest.length - rest.length))

/-- Reads a tag handle: an exclamation mark, a word, and another mark if there is one. -/
def tagHandle (c : Cursor) : List Char × Cursor :=
  let (word, next) := (c.skip 1).takeWhile isWordChar
  if next.rest.head? = some '!' then ('!' :: word ++ ['!'], next.skip 1) else ('!' :: word, next)

/-- Says whether a tag handle is closed by a second exclamation mark. -/
def isClosedHandle (handle : List Char) : Bool :=
  2 ≤ handle.length && handle.getLast? == some '!'

/-- The token of a tag that begins here, before it is known how the tag ends. -/
def tagToken? (c : Cursor) : Option (Token × Cursor) :=
  if (c.rest.drop 1).head? = some '<' then
    match tagText? true [] (c.skip 2) with
    | some (text, c) =>
      if c.rest.head? = some '>' then some (.tag [] text, c.skip 1) else none
    | none => none
  else
    let (handle, next) := tagHandle c
    if isClosedHandle handle then
      (tagText? false [] next).map fun (text, c) => (.tag handle text, c)
    else
      (tagText? false handle next).map fun (text, c) =>
        if text.isEmpty then (.tag [] [33], c) else (.tag ['!'] text, c)

/-- Reads a tag, which a blank has to follow, or in a flow collection a comma. -/
def tag? (flow : Bool) (c : Cursor) : Option (Token × Cursor) :=
  (tagToken? c).filter fun (_, c) => atSpace c.rest || (flow && c.rest.head? == some ',')

/-- Reads a number of a version, of at most nine digits. -/
def versionNumber? (c : Cursor) : Option (Nat × Cursor) :=
  let (ds, c) := c.takeWhile Char.isDigit
  if ds.isEmpty || 9 < ds.length then none
  else some (ds.foldl (fun n d => n * 10 + (d.toNat - 48)) 0, c)

def versionDirective? (c : Cursor) : Option (Token × Cursor) := do
  let (major, c) ← versionNumber? c.skipBlanks
  if c.rest.head? = some '.' then
    let (minor, c) ← versionNumber? (c.skip 1)
    some (.versionDirective major minor, c)
  else none

/-- Reads the handle of a directive and what it stands for. -/
def tagDirective? (c : Cursor) : Option (Token × Cursor) := do
  let c := c.skipBlanks
  if c.rest.head? ≠ some '!' then none
  else
    let (handle, c) := tagHandle c
    if !(isClosedHandle handle || handle == ['!']) then none
    else if !(c.rest.head?.any isBlank) then none
    else
      let (meaning, c) ← tagText? true [] c.skipBlanks
      if atSpace c.rest then some (.tagDirective handle meaning, c) else none

def directive? (c : Cursor) : Option (Token × Cursor) := do
  let (name, c) := (c.skip 1).takeWhile isWordChar
  if !atSpace c.rest then none
  else
    let (token, c) ←
      if name = "YAML".toList then versionDirective? c
      else if name = "TAG".toList then tagDirective? c
      else none
    some (token, ← c.endLine?)

end ModuleCatalog.Yaml
