import ModuleCatalog.Yaml.Lexer
import ModuleCatalog.Yaml.Node

/-!
Reading the one document of a YAML stream from its tokens.
-/
namespace ModuleCatalog.Yaml

/-- What is left to read of a document: the tokens, the meanings of the tag handles, and the
numbers of the names anchored so far, the latest first. -/
structure Remaining where
  tokens : List Token
  handles : List (List Char × List UInt8)
  anchors : List (List Char × Nat)
  deriving DecidableEq, Repr

namespace Remaining

def next (r : Remaining) : Remaining :=
  { r with tokens := r.tokens.drop 1 }

/-- Says whether the next token is one of the given ones. -/
def atAny (r : Remaining) (ts : List Token) : Bool :=
  r.tokens.head?.any ts.contains

/-- Anchors a name: it takes the number of names anchored before. -/
def bind (r : Remaining) (name : List Char) : Nat × Remaining :=
  let n := r.anchors.length
  (n, { r with anchors := (name, n) :: r.anchors.filter (·.1 != name) })

/-- The full text of a tag; the handle has to have a meaning. -/
def tagText? (r : Remaining) (handle : List Char) (suffix : List UInt8) : Option (List UInt8) :=
  if handle.isEmpty then some suffix
  else (r.handles.find? (·.1 == handle)).map fun h => h.2 ++ suffix

end Remaining

/-- The anchor and the tag before a node. -/
structure Properties where
  anchor : Option (List Char)
  tag : Option (List UInt8)
  deriving DecidableEq, Repr

def Properties.isSome (p : Properties) : Bool :=
  p.anchor.isSome || p.tag.isSome

/-- Reads at most one anchor and one tag, in any order. -/
def properties? (r : Remaining) : Option (Properties × Remaining) :=
  match r.tokens with
  | .anchor name :: .tag handle suffix :: _ =>
    (r.tagText? handle suffix).map fun t => (⟨some name, some t⟩, r.next.next)
  | .anchor name :: _ => some (⟨some name, none⟩, r.next)
  | .tag handle suffix :: .anchor name :: _ =>
    (r.tagText? handle suffix).map fun t => (⟨some name, some t⟩, r.next.next)
  | .tag handle suffix :: _ => (r.tagText? handle suffix).map fun t => (⟨none, some t⟩, r.next)
  | _ => some (⟨none, none⟩, r)

def number (p : Properties) (r : Remaining) : Option Nat × Remaining :=
  match p.anchor with
  | some name =>
    let (n, r) := r.bind name
    (some n, r)
  | none => (none, r)

mutual

/-- Reads a node. A block collection can only stand where `block` is true; `indentless` allows a
sequence that has no start of its own because it is not indented. -/
def node? : Nat → Bool → Bool → Remaining → Option (Node × Remaining)
  | 0, _, _, _ => none
  | fuel + 1, block, indentless, r =>
    match r.tokens with
    | .alias name :: _ =>
      (r.anchors.find? (·.1 == name)).map fun a => (.alias a.2, r.next)
    | _ =>
      match properties? r with
      | none => none
      | some (p, r) =>
        let (anchor, r) := number p r
        match r.tokens with
        | .blockEntry :: _ =>
          if indentless then indentless? fuel anchor [] r
          else if p.isSome then some (.scalar anchor .plain p.tag [], r)
          else none
        | .scalar style value :: _ => some (.scalar anchor style p.tag value, r.next)
        | .flowSequenceStart :: _ => flowSequence? fuel anchor true [] r.next
        | .flowMappingStart :: _ => flowMapping? fuel anchor true [] r.next
        | .blockSequenceStart :: _ =>
          if block then blockSequence? fuel anchor [] r.next
          else if p.isSome then some (.scalar anchor .plain p.tag [], r)
          else none
        | .blockMappingStart :: _ =>
          if block then blockMapping? fuel anchor [] r.next
          else if p.isSome then some (.scalar anchor .plain p.tag [], r)
          else none
        | _ => if p.isSome then some (.scalar anchor .plain p.tag [], r) else none

/-- Reads a node, unless one of the given tokens comes next, before which no node is written. -/
def nodeBefore? : Nat → Bool → Bool → List Token → Remaining → Option (Node × Remaining)
  | 0, _, _, _, _ => none
  | fuel + 1, block, indentless, ends, r =>
    if r.atAny ends then some (.missing, r) else node? fuel block indentless r

/-- Reads the value after a key, if there is a colon. -/
def valueBefore? : Nat → Bool → List Token → Remaining → Option (Node × Remaining)
  | 0, _, _, _ => none
  | fuel + 1, block, ends, r =>
    if r.atAny [.value] then nodeBefore? fuel block block ends r.next else some (.missing, r)

/-- Reads the rest of a block sequence; `read` stands backwards. -/
def blockSequence? : Nat → Option Nat → List Node → Remaining → Option (Node × Remaining)
  | 0, _, _, _ => none
  | fuel + 1, anchor, read, r =>
    match r.tokens with
    | .blockEntry :: _ =>
      match nodeBefore? fuel true false [.blockEntry, .blockEnd] r.next with
      | some (x, r) => blockSequence? fuel anchor (x :: read) r
      | none => none
    | .blockEnd :: _ => some (.sequence anchor read.reverse, r.next)
    | _ => none

/-- Reads the rest of a sequence that is not indented; `read` stands backwards. -/
def indentless? : Nat → Option Nat → List Node → Remaining → Option (Node × Remaining)
  | 0, _, _, _ => none
  | fuel + 1, anchor, read, r =>
    match r.tokens with
    | .blockEntry :: _ =>
      match nodeBefore? fuel true false [.blockEntry, .key, .value, .blockEnd] r.next with
      | some (x, r) => indentless? fuel anchor (x :: read) r
      | none => none
    | _ => some (.sequence anchor read.reverse, r)

/-- Reads the rest of a block mapping; `read` stands backwards. -/
def blockMapping? :
    Nat → Option Nat → List (Node × Node) → Remaining → Option (Node × Remaining)
  | 0, _, _, _ => none
  | fuel + 1, anchor, read, r =>
    match r.tokens with
    | .key :: _ =>
      match nodeBefore? fuel true true [.key, .value, .blockEnd] r.next with
      | some (k, r) =>
        match valueBefore? fuel true [.key, .value, .blockEnd] r with
        | some (v, r) => blockMapping? fuel anchor ((k, v) :: read) r
        | none => none
      | none => none
    | .blockEnd :: _ => some (.mapping anchor read.reverse, r.next)
    | _ => none

/-- Reads the rest of a flow sequence; `read` stands backwards. An item may be a single pair, which
is a mapping of its own. -/
def flowSequence? :
    Nat → Option Nat → Bool → List Node → Remaining → Option (Node × Remaining)
  | 0, _, _, _, _ => none
  | fuel + 1, anchor, first, read, r =>
    if r.atAny [.flowSequenceEnd] then some (.sequence anchor read.reverse, r.next)
    else if !first && !r.atAny [.flowEntry] then none
    else
      let r := if first then r else r.next
      match r.tokens with
      | .flowSequenceEnd :: _ => some (.sequence anchor read.reverse, r.next)
      | .key :: _ =>
        match flowPair? fuel r.next with
        | some (x, r) => flowSequence? fuel anchor false (x :: read) r
        | none => none
      | _ =>
        match node? fuel false false r with
        | some (x, r) => flowSequence? fuel anchor false (x :: read) r
        | none => none

/-- Reads a single pair in a flow sequence. Where the key is not written, the token in its place is
passed over. -/
def flowPair? : Nat → Remaining → Option (Node × Remaining)
  | 0, _ => none
  | fuel + 1, r =>
    let key :=
      if r.atAny [.value, .flowEntry, .flowSequenceEnd] then some (.missing, r.next)
      else node? fuel false false r
    match key with
    | some (k, r) =>
      (valueBefore? fuel false [.flowEntry, .flowSequenceEnd] r).map fun (v, r) =>
        (.mapping none [(k, v)], r)
    | none => none

/-- Reads the rest of a flow mapping; `read` stands backwards. -/
def flowMapping? :
    Nat → Option Nat → Bool → List (Node × Node) → Remaining → Option (Node × Remaining)
  | 0, _, _, _, _ => none
  | fuel + 1, anchor, first, read, r =>
    if r.atAny [.flowMappingEnd] then some (.mapping anchor read.reverse, r.next)
    else if !first && !r.atAny [.flowEntry] then none
    else
      let r := if first then r else r.next
      match r.tokens with
      | .flowMappingEnd :: _ => some (.mapping anchor read.reverse, r.next)
      | .key :: _ =>
        match nodeBefore? fuel false false [.value, .flowEntry, .flowMappingEnd] r.next with
        | some (k, r) =>
          match valueBefore? fuel false [.flowEntry, .flowMappingEnd] r with
          | some (v, r) => flowMapping? fuel anchor false ((k, v) :: read) r
          | none => none
        | none => none
      | _ =>
        match node? fuel false false r with
        | some (k, r) => flowMapping? fuel anchor false ((k, .missing) :: read) r
        | none => none

end

/-- The meanings of tag handles that hold in every document. -/
def defaultHandles : List (List Char × List UInt8) :=
  [(['!'], [33]), (['!', '!'], "tag:yaml.org,2002:".toUTF8.toList)]

/-- The directives before a document: whether there was a version, and the tag handles. A directive
may not be repeated, and the version has to be 1.1 or 1.2. -/
def directives? (version : Bool) (handles : List (List Char × List UInt8)) :
    List Token → Option (List (List Char × List UInt8) × List Token)
  | .versionDirective major minor :: ts =>
    if version || major ≠ 1 || !(minor = 1 || minor = 2) then none
    else directives? true handles ts
  | .tagDirective handle meaning :: ts =>
    if handles.any (·.1 == handle) then none
    else directives? version ((handle, meaning) :: handles) ts
  | ts => some (handles ++ defaultHandles, ts)

/-- Says whether a document starts with directives or its mark. -/
def startsExplicitly : List Token → Bool
  | .versionDirective _ _ :: _ => true
  | .tagDirective _ _ :: _ => true
  | .documentStart :: _ => true
  | _ => false

/-- Says whether a document has no content before the next token. -/
def endsDocument : List Token → Bool
  | [] => true
  | .documentEnd :: _ => true
  | ts => startsExplicitly ts

/-- The number of nested calls that suffices to read tokens. -/
def callsFor (ts : List Token) : Nat :=
  4 * ts.length + 4

/-- Reads the content of a document and whatever follows it. -/
def content? (handles : List (List Char × List UInt8)) (ts : List Token) :
    Option (Node × List Token) :=
  (node? (callsFor ts) true false ⟨ts, handles, []⟩).map fun (n, r) => (n, r.tokens)

/-- Reads the first document of a stream and whatever follows it. -/
def firstDocument? (ts : List Token) : Option (Node × List Token) :=
  if startsExplicitly ts then
    match directives? false [] ts with
    | some (handles, .documentStart :: ts) =>
      if endsDocument ts then some (.missing, ts) else content? handles ts
    | _ => none
  else content? defaultHandles ts

/-- Reads the document of a stream, which is missing if the stream has no content. After it only
marks of its end may follow. -/
def document? (text : List Char) : Option Node :=
  match tokens? text with
  | none => none
  | some [] => some .missing
  | some ts =>
    match firstDocument? ts with
    | none => none
    | some (n, rest) => if rest.all (· == .documentEnd) then some n else none

end ModuleCatalog.Yaml
