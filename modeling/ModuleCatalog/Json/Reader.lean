import ModuleCatalog.Json.Number
import ModuleCatalog.Text.Hex

/-!
Reading a JSON text. The grammar is the strict one: no comments, no trailing commas, no leading
zeros, no control characters and no lone surrogates in strings, and nothing but white space around
the value. Arrays and objects may be nested up to 127 deep.
-/
namespace ModuleCatalog.Json.Reader

def skipSpace : List Char → List Char
  | ' ' :: cs => skipSpace cs
  | '\t' :: cs => skipSpace cs
  | '\n' :: cs => skipSpace cs
  | '\r' :: cs => skipSpace cs
  | cs => cs

/-- The code unit of the four hexadecimal digits at the front of a text. -/
def codeUnit? : List Char → Option Nat
  | a :: b :: c :: d :: _ =>
    match Text.hexValue? a, Text.hexValue? b, Text.hexValue? c, Text.hexValue? d with
    | some a, some b, some c, some d => some (((a * 16 + b) * 16 + c) * 16 + d)
    | _, _, _, _ => none
  | _ => none

def shortEscape? : Char → Option Char
  | '"' => some '"'
  | '\\' => some '\\'
  | '/' => some '/'
  | 'b' => some '\x08'
  | 'f' => some '\x0c'
  | 'n' => some '\n'
  | 'r' => some '\r'
  | 't' => some '\t'
  | _ => none

/-- The character beyond the first plane that a pair of code units denotes, the second of which is
escaped at the front of a text. -/
def pairedWith? (high : Nat) : List Char → Option Char
  | '\\' :: 'u' :: cs =>
    match codeUnit? cs with
    | some low =>
      if 0xDC00 ≤ low && low < 0xE000 then
        some (.ofNat (0x10000 + (high - 0xD800) * 0x400 + (low - 0xDC00)))
      else none
    | none => none
  | _ => none

/-- The character of an escape and the number of characters after the backslash that spell it. -/
def escape? : List Char → Option (Char × Nat)
  | 'u' :: cs =>
    match codeUnit? cs with
    | none => none
    | some unit =>
      if 0xD800 ≤ unit && unit < 0xDC00 then (pairedWith? unit (cs.drop 4)).map (·, 11)
      else if 0xDC00 ≤ unit && unit < 0xE000 then none
      else some (.ofNat unit, 5)
  | c :: _ => (shortEscape? c).map (·, 1)
  | [] => none

/-- Reads a string after its opening quote; `read` is what has been read, backwards. The first
`passed` characters have been read as part of an escape. -/
def string? (passed : Nat) (read : List Char) : List Char → Option (String × List Char)
  | [] => none
  | c :: cs =>
    match passed with
    | n + 1 => string? n read cs
    | 0 =>
      if c = '"' then some (.ofList read.reverse, cs)
      else if c = '\\' then
        match escape? cs with
        | some (d, n) => string? n (d :: read) cs
        | none => none
      else if c.toNat < 0x20 then none
      else string? 0 (c :: read) cs

/-- The digits at the front of a text, as numbers, and what follows them. -/
def digits (cs : List Char) : List Nat × List Char :=
  ((cs.takeWhile Char.isDigit).map (·.toNat - 48), cs.dropWhile Char.isDigit)

/-- The digits of the exponent after its letter and sign. -/
def exponentDigits? (down : Bool) (cs : List Char) : Option (Option (Bool × List Nat) × List Char) :=
  match digits cs with
  | ([], _) => none
  | (ds, rest) => some (some (down, ds), rest)

def exponent? : List Char → Option (Option (Bool × List Nat) × List Char)
  | c :: cs =>
    if c = 'e' || c = 'E' then
      match cs with
      | '+' :: rest => exponentDigits? false rest
      | '-' :: rest => exponentDigits? true rest
      | rest => exponentDigits? false rest
    else some (none, c :: cs)
  | [] => some (none, [])

/-- The fraction of a literal, if there is one; a point needs a digit after it. -/
def fraction? : List Char → Option (List Nat × List Char)
  | '.' :: cs =>
    match digits cs with
    | ([], _) => none
    | (ds, rest) => some (ds, rest)
  | cs => some ([], cs)

/-- The whole part of a literal: a zero alone or digits that do not start with a zero. -/
def whole? (cs : List Char) : Option (List Nat × List Char) :=
  match digits cs with
  | ([], _) => none
  | (0 :: _ :: _, _) => none
  | (ds, rest) => some (ds, rest)

/-- The literal at the front of a text, its sign already read. -/
def literal? (negative : Bool) (cs : List Char) : Option (Literal × List Char) := do
  let (whole, cs) ← whole? cs
  let (fraction, cs) ← fraction? cs
  let (exponent, cs) ← exponent? cs
  some (⟨negative, whole, fraction, exponent⟩, cs)

def number? (cs : List Char) : Option (Number × List Char) := do
  let (l, rest) ←
    match cs with
    | '-' :: cs => literal? true cs
    | cs => literal? false cs
  let n ← l.value?
  some (n, rest)

mutual

/-- Reads a value; `depth` more levels of nesting are allowed. -/
def value? : Nat → Nat → List Char → Option (Json × List Char)
  | 0, _, _ => none
  | fuel + 1, depth, cs =>
    match skipSpace cs with
    | 'n' :: 'u' :: 'l' :: 'l' :: rest => some (.null, rest)
    | 't' :: 'r' :: 'u' :: 'e' :: rest => some (.bool true, rest)
    | 'f' :: 'a' :: 'l' :: 's' :: 'e' :: rest => some (.bool false, rest)
    | '"' :: rest => (string? 0 [] rest).map fun (s, rest) => (.string s, rest)
    | '[' :: rest =>
      match depth with
      | 0 => none
      | depth + 1 =>
        match skipSpace rest with
        | ']' :: rest => some (.array [], rest)
        | rest => items? fuel depth [] rest
    | '\x7b' :: rest =>
      match depth with
      | 0 => none
      | depth + 1 =>
        match skipSpace rest with
        | '\x7d' :: rest => some (.object [], rest)
        | rest => members? fuel depth [] rest
    | rest => (number? rest).map fun (n, rest) => (.number n, rest)

/-- Reads the items of an array that is not empty; `read` is what has been read, backwards. -/
def items? : Nat → Nat → List Json → List Char → Option (Json × List Char)
  | 0, _, _, _ => none
  | fuel + 1, depth, read, cs =>
    match value? fuel depth cs with
    | none => none
    | some (v, rest) =>
      match skipSpace rest with
      | ',' :: rest => items? fuel depth (v :: read) rest
      | ']' :: rest => some (.array (v :: read).reverse, rest)
      | _ => none

/-- Reads the members of an object that is not empty; `read` is what has been read, backwards. -/
def members? : Nat → Nat → List (String × Json) → List Char → Option (Json × List Char)
  | 0, _, _, _ => none
  | fuel + 1, depth, read, cs =>
    match skipSpace cs with
    | '"' :: rest =>
      match string? 0 [] rest with
      | none => none
      | some (key, rest) =>
        match skipSpace rest with
        | ':' :: rest =>
          match value? fuel depth rest with
          | none => none
          | some (v, rest) =>
            match skipSpace rest with
            | ',' :: rest => members? fuel depth ((key, v) :: read) rest
            | '\x7d' :: rest => some (.object ((key, v) :: read).reverse, rest)
            | _ => none
        | _ => none
    | _ => none

end

/-- The number of levels to which arrays and objects may be nested. -/
def maxDepth : Nat := 127

end Reader

/-- The value of a JSON text, or nothing if the text is not JSON. -/
def parse? (s : String) : Option Json :=
  let cs := s.toList
  match Reader.value? (2 * cs.length + 2) Reader.maxDepth cs with
  | some (v, rest) => if (Reader.skipSpace rest).isEmpty then some v else none
  | none => none

end ModuleCatalog.Json
