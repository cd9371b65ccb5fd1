import ModuleCatalog.Proofs.JsonGrammar
import ModuleCatalog.Proofs.Searches

/-!
The reader on texts that the grammar derives. It gives every such text the value of its tree, and
none where the tree has none.
-/
namespace ModuleCatalog.Json.Reader

open Decimal (IsDigits)

variable {cs rest : List Char}

section Space

theorem skipSpace_append {before : List Char} (h : IsSpace before) (cs : List Char) :
    skipSpace (before ++ cs) = skipSpace cs := by
  induction before with
  | nil => rfl
  | cons c before ih =>
    obtain ⟨hc, hrest⟩ := List.forall_mem_cons.mp h
    rw [List.cons_append, ← ih hrest]
    simp only [List.mem_cons, List.not_mem_nil, or_false] at hc
    rcases hc with rfl | rfl | rfl | rfl <;> rfl

theorem skipSpace_cons {c : Char} (h : c ∉ [' ', '\t', '\n', '\r']) (cs : List Char) :
    skipSpace (c :: cs) = c :: cs := by
  unfold skipSpace
  split
  all_goals first
    | rfl
    | next heq =>
      cases heq
      exact absurd (by decide) h

theorem isEmpty_skipSpace (h : IsSpace cs) : (skipSpace cs).isEmpty = true := by
  rw [← List.append_nil cs, skipSpace_append h]
  rfl

end Space

section Strings

theorem string?_drop (n : Nat) (read : List Char) {passed : List Char} (h : passed.length = n)
    (cs : List Char) : string? n read (passed ++ cs) = string? 0 read cs := by
  induction n generalizing passed with
  | zero => rw [List.eq_nil_of_length_eq_zero h, List.nil_append]
  | succ n ih =>
    obtain ⟨c, passed, rfl⟩ := List.exists_cons_of_length_eq_add_one h
    rw [List.cons_append, string?]
    exact ih (by simpa using h)

theorem codeUnit?_eq {a b c d : Char} (h : IsHex a ∧ IsHex b ∧ IsHex c ∧ IsHex d) (cs : List Char) :
    codeUnit? (a :: b :: c :: d :: cs) = some (codeUnit a b c d) := by
  obtain ⟨na, ha⟩ := isHex_iff_exists_value.mp h.1
  obtain ⟨nb, hb⟩ := isHex_iff_exists_value.mp h.2.1
  obtain ⟨nc, hc⟩ := isHex_iff_exists_value.mp h.2.2.1
  obtain ⟨nd, hd⟩ := isHex_iff_exists_value.mp h.2.2.2
  simp [codeUnit?, codeUnit, ha, hb, hc, hd]

/-- A short escape is read as its character. -/
theorem escape?_short {letter : Char} (h : letter ∈ escapeLetters) (cs : List Char) :
    escape? (letter :: cs) = (shortEscape? letter).map (·, 1) := by
  have hne : letter ≠ 'u' := by
    rintro rfl
    exact absurd h (by decide)
  rw [escape?]
  exact hne

theorem string?_quote (read cs : List Char) :
    string? 0 read ('"' :: cs) = some (.ofList read.reverse, cs) := rfl

theorem string?_plain {c : Char} (h : c ≠ '"' ∧ c ≠ '\\' ∧ 0x20 ≤ c.toNat) (read cs : List Char) :
    string? 0 read (c :: cs) = string? 0 (c :: read) cs := by
  have hcontrol : ¬c.toNat < 0x20 := Nat.not_lt.mpr h.2.2
  simp only [string?, h.1, h.2.1, hcontrol, if_false]

theorem string?_escape_none {cs : List Char} (h : escape? cs = none) (read : List Char) :
    string? 0 read ('\\' :: cs) = none := by
  simp [string?, h]

theorem string?_escape (spelled : List Char) {cs : List Char} {c : Char}
    (h : escape? (spelled ++ cs) = some (c, spelled.length)) (read : List Char) :
    string? 0 read ('\\' :: (spelled ++ cs)) = string? 0 (c :: read) cs := by
  simp [string?, h, string?_drop]

section Units

variable {a b c d : Char} (h : IsHex a ∧ IsHex b ∧ IsHex c ∧ IsHex d)
include h

theorem escape?_single (hleading : ¬isLeading (codeUnit a b c d) = true)
    (htrailing : ¬isTrailing (codeUnit a b c d) = true) (cs : List Char) :
    escape? ('u' :: a :: b :: c :: d :: cs) = some (.ofNat (codeUnit a b c d), 5) := by
  rw [isLeading] at hleading
  rw [isTrailing] at htrailing
  simp only [escape?, codeUnit?_eq h, hleading, htrailing]
  rfl

theorem escape?_trailing (hleading : ¬isLeading (codeUnit a b c d) = true)
    (htrailing : isTrailing (codeUnit a b c d) = true) (cs : List Char) :
    escape? ('u' :: a :: b :: c :: d :: cs) = none := by
  rw [isLeading] at hleading
  rw [isTrailing] at htrailing
  simp only [escape?, codeUnit?_eq h, hleading, htrailing]
  rfl

theorem escape?_leading (hleading : isLeading (codeUnit a b c d) = true) (cs : List Char) :
    escape? ('u' :: a :: b :: c :: d :: cs) =
      (pairedWith? (codeUnit a b c d) cs).map (·, 11) := by
  rw [isLeading] at hleading
  simp only [escape?, codeUnit?_eq h, hleading]
  rfl

theorem pairedWith?_unit (high : Nat) (cs : List Char) :
    pairedWith? high ('\\' :: 'u' :: a :: b :: c :: d :: cs) =
      if isTrailing (codeUnit a b c d) then
        some (.ofNat (0x10000 + (high - 0xD800) * 0x400 + (codeUnit a b c d - 0xDC00)))
      else none := by
  simp only [pairedWith?, codeUnit?_eq h, isTrailing]
  rfl

end Units

/-- What does not spell a code unit makes no pair. -/
theorem pairedWith?_of_not_unit {pieces : List Piece}
    (h : ∀ a b c d hex more, pieces = .unit a b c d hex :: more → False) (high : Nat)
    (rest : List Char) :
    pairedWith? high (pieces.flatMap Piece.text ++ '"' :: rest) = none := by
  cases pieces with
  | nil => rfl
  | cons piece pieces =>
    cases piece with
    | plain c hc =>
      simp only [List.flatMap_cons, Piece.text, List.cons_append, List.nil_append]
      unfold pairedWith?
      split
      · next heq => exact absurd (List.cons.inj heq).1 hc.2.1
      · rfl
    | short letter hletter =>
      simp only [List.flatMap_cons, Piece.text, List.cons_append, List.nil_append]
      unfold pairedWith?
      split
      · next heq =>
        obtain rfl : letter = 'u' := (List.cons.inj (List.cons.inj heq).2).1
        exact absurd hletter (by decide)
      · rfl
    | unit a b c d hex => exact (h a b c d hex pieces rfl).elim

/-- A string is read as the characters that its pieces stand for. -/
theorem string?_pieces (pieces : List Piece) (read rest : List Char) :
    string? 0 read (pieces.flatMap Piece.text ++ '"' :: rest) =
      (decode? pieces).map fun cs => (.ofList (read.reverse ++ cs), rest) := by
  have hcons (c : Char) (read : List Char) (cs : Option (List Char)) :
      (cs.map fun cs => (String.ofList ((c :: read).reverse ++ cs), rest)) =
        (cs.map (c :: ·)).map fun cs => (String.ofList (read.reverse ++ cs), rest) := by
    simp [Function.comp_def]
  fun_induction decode? pieces generalizing read with
  | case1 => simp [string?_quote]
  | case2 c h pieces ih =>
    rw [← hcons, ← ih]
    exact string?_plain h _ _
  | case3 letter h pieces ih =>
    have hescape := escape?_short h (pieces.flatMap Piece.text ++ '"' :: rest)
    cases hletter : shortEscape? letter with
    | none =>
      rw [hletter] at hescape
      exact string?_escape_none hescape read
    | some c =>
      rw [hletter] at hescape
      rw [Option.bind_some, ← hcons, ← ih]
      exact string?_escape [letter] hescape read
  | case4 a b c d h a' b' c' d' h' pieces unit next hleading htrailing ih =>
    have hescape := escape?_leading h hleading
      ('\\' :: 'u' :: a' :: b' :: c' :: d' :: (pieces.flatMap Piece.text ++ '"' :: rest))
    rw [pairedWith?_unit h', if_pos htrailing] at hescape
    rw [← hcons, ← ih]
    exact string?_escape ['u', a, b, c, d, '\\', 'u', a', b', c', d'] hescape read
  | case5 a b c d h a' b' c' d' h' pieces unit next hleading htrailing =>
    have hescape := escape?_leading h hleading
      ('\\' :: 'u' :: a' :: b' :: c' :: d' :: (pieces.flatMap Piece.text ++ '"' :: rest))
    rw [pairedWith?_unit h', if_neg htrailing] at hescape
    exact string?_escape_none hescape read
  | case6 a b c d h a' b' c' d' h' pieces unit hleading htrailing =>
    exact string?_escape_none (escape?_trailing h hleading htrailing _) read
  | case7 a b c d h a' b' c' d' h' pieces unit hleading htrailing ih =>
    rw [← hcons, ← ih]
    exact string?_escape ['u', a, b, c, d] (escape?_single h hleading htrailing _) read
  | case8 a b c d h pieces hother unit hsurrogate =>
    refine string?_escape_none ?_ read
    by_cases hleading : isLeading unit = true
    · have hescape := escape?_leading h hleading (pieces.flatMap Piece.text ++ '"' :: rest)
      rw [pairedWith?_of_not_unit hother] at hescape
      exact hescape
    · have htrailing := ((Bool.or_eq_true _ _).mp hsurrogate).resolve_left hleading
      exact escape?_trailing h hleading htrailing _
  | case9 a b c d h pieces hother unit hsurrogate ih =>
    rw [Bool.or_eq_true, not_or] at hsurrogate
    rw [← hcons, ← ih]
    exact string?_escape ['u', a, b, c, d] (escape?_single h hsurrogate.1 hsurrogate.2 _) read

end Strings

section Numbers

/-- Says that a number ends where some text goes on. -/
def EndsNumber (rest : List Char) : Prop :=
  ∀ c ∈ rest.head?, c.isDigit = false ∧ c ≠ '.' ∧ c ≠ 'e' ∧ c ≠ 'E'

theorem digits_append {ds : List Char} (hds : IsDigits ds)
    (hrest : ∀ c ∈ rest.head?, c.isDigit = false) :
    digits (ds ++ rest) = (digitValues ds, rest) := by
  have hrun := Release.takeWhile_append_stop hds.2 hrest
  have hsplit := List.takeWhile_append_dropWhile (p := Char.isDigit) (l := ds ++ rest)
  rw [hrun] at hsplit
  rw [digits, hrun, List.append_cancel_left hsplit]
  rfl

theorem exists_cons_digits {ds : List Char} (h : IsDigits ds) :
    ∃ d more, ds = d :: more ∧ d.isDigit = true := by
  obtain ⟨d, more, rfl⟩ := List.exists_cons_of_ne_nil h.1
  exact ⟨d, more, rfl, h.2 d List.mem_cons_self⟩

theorem digitValues_ne_nil {ds : List Char} (h : IsDigits ds) : digitValues ds ≠ [] :=
  fun hnil => h.1 (List.map_eq_nil_iff.mp hnil)

theorem digitValues_cons (c : Char) (ds : List Char) :
    digitValues (c :: ds) = (c.toNat - 48) :: digitValues ds := rfl

theorem eq_zero_of_value {c : Char} (hc : c.isDigit = true) (h : c.toNat - 48 = 0) : c = '0' := by
  simp only [Char.isDigit, Bool.and_eq_true, decide_eq_true_eq, ge_iff_le,
    UInt32.le_iff_toNat_le] at hc
  have hle : 48 ≤ c.toNat := hc.1
  have htoNat : c.toNat = '0'.toNat := Nat.le_antisymm (Nat.sub_eq_zero_iff_le.mp h) hle
  exact Char.toNat_inj.mp htoNat

theorem whole?_append (n : Numeral) (hrest : ∀ c ∈ rest.head?, c.isDigit = false) :
    whole? (n.whole ++ rest) = some (digitValues n.whole, rest) := by
  rw [whole?, digits_append n.isWhole hrest]
  split
  · next hnil => exact absurd (congrArg Prod.fst hnil) (digitValues_ne_nil n.isWhole)
  · next second more after heq =>
    have hvalues : digitValues n.whole = 0 :: second :: more := congrArg Prod.fst heq
    rcases n.noLeadingZero with hzero | hhead
    · rw [hzero] at hvalues
      cases hvalues
    · obtain ⟨c, ds, hwhole, hc⟩ := exists_cons_digits n.isWhole
      rw [hwhole, digitValues_cons] at hvalues
      rw [hwhole, eq_zero_of_value hc (List.cons.inj hvalues).1] at hhead
      exact absurd rfl hhead
  · next heq =>
    cases heq
    rfl

theorem fraction?_append (n : Numeral) (hrest : ∀ c ∈ rest.head?, c.isDigit = false ∧ c ≠ '.') :
    fraction? (n.fraction.elim [] ('.' :: ·) ++ rest) =
      some (n.fraction.elim [] digitValues, rest) := by
  cases hfraction : n.fraction with
  | none =>
    cases rest with
    | nil => rfl
    | cons c rest =>
      have hc : c ≠ '.' := (hrest c rfl).2
      simp only [Option.elim_none, List.nil_append]
      unfold fraction?
      split
      · next heq => exact absurd (List.cons.inj heq).1 hc
      · rfl
  | some ds =>
    have hds := n.isFraction ds hfraction
    simp only [Option.elim_some, List.cons_append, fraction?,
      digits_append hds fun c hc => (hrest c hc).1]
    split
    · next hnil => exact absurd (congrArg Prod.fst hnil) (digitValues_ne_nil hds)
    · next heq =>
      cases heq
      rfl

theorem exponentDigits?_append {ds : List Char} (down : Bool) (hds : IsDigits ds)
    (hrest : ∀ c ∈ rest.head?, c.isDigit = false) :
    exponentDigits? down (ds ++ rest) = some (some (down, digitValues ds), rest) := by
  rw [exponentDigits?, digits_append hds hrest]
  split
  · next hnil => exact absurd (congrArg Prod.fst hnil) (digitValues_ne_nil hds)
  · next heq =>
    cases heq
    rfl

theorem exponent?_text (e : Exponent) (hrest : ∀ c ∈ rest.head?, c.isDigit = false) :
    exponent? (e.text ++ rest) = some (some e.parts, rest) := by
  have hletter : (e.letter = 'e' || e.letter = 'E') = true := by simpa using e.isLetter
  have hplain := exponentDigits?_append false e.isDigits hrest
  have hdown := exponentDigits?_append true e.isDigits hrest
  rw [Exponent.text, List.cons_append, exponent?.eq_def]
  rw [List.cons_append]
  simp only [hletter, if_true]
  rcases e.isSign with hsign | hsign | hsign
  · obtain ⟨d, ds, hdigits, hd⟩ := exists_cons_digits e.isDigits
    rw [Exponent.parts, hsign, List.nil_append]
    rw [hdigits] at hplain ⊢
    split
    · next heq => cases heq; cases hd
    · next heq => cases heq; cases hd
    · exact hplain
  · rw [Exponent.parts, hsign]
    exact hplain
  · rw [Exponent.parts, hsign]
    exact hdown

theorem exponent?_append (n : Numeral) (hrest : EndsNumber rest) :
    exponent? (n.exponent.elim [] Exponent.text ++ rest) =
      some (n.exponent.map Exponent.parts, rest) := by
  cases n.exponent with
  | some e => exact exponent?_text e fun c hc => (hrest c hc).1
  | none =>
    cases rest with
    | nil => rfl
    | cons c rest =>
      obtain ⟨-, -, hsmall, hcapital⟩ := hrest c rfl
      simp only [Option.elim_none, List.nil_append, exponent?, hsmall, hcapital]
      rfl

theorem literal?_text (n : Numeral) (hrest : EndsNumber rest) :
    literal? n.negative (n.whole ++ (n.fraction.elim [] ('.' :: ·) ++
      (n.exponent.elim [] Exponent.text ++ rest))) = some (n.literal, rest) := by
  have hexponent : ∀ c ∈ (n.exponent.elim [] Exponent.text ++ rest).head?,
      c.isDigit = false ∧ c ≠ '.' := by
    cases n.exponent with
    | none => exact fun c hc => ⟨(hrest c hc).1, (hrest c hc).2.1⟩
    | some e =>
      intro c hc
      obtain rfl : e.letter = c := Option.some.inj hc
      rcases e.isLetter with h | h <;> rw [h] <;> decide
  have hfraction : ∀ c ∈ (n.fraction.elim [] ('.' :: ·) ++
      (n.exponent.elim [] Exponent.text ++ rest)).head?, c.isDigit = false := by
    cases n.fraction with
    | none => exact fun c hc => (hexponent c hc).1
    | some ds =>
      intro c hc
      obtain rfl : '.' = c := Option.some.inj hc
      rfl
  rw [literal?, whole?_append n hfraction, Option.bind_eq_bind, Option.bind_some]
  simp only [fraction?_append n hexponent, exponent?_append n hrest, Option.bind_eq_bind,
    Option.bind_some]
  rfl

theorem number?_minus {l : Literal} (h : literal? true cs = some (l, rest)) :
    number? ('-' :: cs) = l.value?.map (·, rest) := by
  simp only [number?, h]
  cases hvalue : l.value? <;> simp [hvalue]

theorem number?_plain {c : Char} {l : Literal} (hc : c ≠ '-')
    (h : literal? false (c :: cs) = some (l, rest)) :
    number? (c :: cs) = l.value?.map (·, rest) := by
  unfold number?
  split
  · next heq => exact absurd (List.cons.inj heq).1 hc
  · simp only [h]
    cases hvalue : l.value? <;> simp [hvalue]

/-- A number is read as the value of its literal. -/
theorem number?_text (n : Numeral) (hrest : EndsNumber rest) :
    number? (n.text ++ rest) = n.literal.value?.map (·, rest) := by
  have hliteral := literal?_text n hrest
  have htext : n.text ++ rest = (if n.negative then ['-'] else []) ++ (n.whole ++
      (n.fraction.elim [] ('.' :: ·) ++ (n.exponent.elim [] Exponent.text ++ rest))) := by
    simp only [Numeral.text, List.append_assoc]
  rw [htext]
  cases hsign : n.negative with
  | true =>
    rw [hsign] at hliteral
    exact number?_minus hliteral
  | false =>
    obtain ⟨d, ds, hwhole, hd⟩ := exists_cons_digits n.isWhole
    have hminus : d ≠ '-' := by
      rintro rfl
      cases hd
    rw [hsign, hwhole] at hliteral
    rw [hwhole]
    exact number?_plain hminus hliteral

end Numbers

section Values

variable {fuel depth : Nat}

theorem value?_append_space {before : List Char} (h : IsSpace before) (cs : List Char) :
    value? fuel depth (before ++ cs) = value? fuel depth cs := by
  cases fuel with
  | zero => rfl
  | succ fuel => rw [value?, value?, skipSpace_append h]

/-- A number also ends where blanks stand before what ends it. -/
theorem endsNumber_space_append {after : List Char} (h : IsSpace after) (hrest : EndsNumber rest) :
    EndsNumber (after ++ rest) := by
  cases after with
  | nil => exact hrest
  | cons c after =>
    intro c' hc
    obtain rfl : c = c' := Option.some.inj hc
    have hspace := h c List.mem_cons_self
    simp only [List.mem_cons, List.not_mem_nil, or_false] at hspace
    rcases hspace with rfl | rfl | rfl | rfl <;> decide

/-- What the reader makes of a text in which a value stands at the front. -/
def Reads (text : List Char) (t : Tree) : Prop :=
  ∀ fuel depth rest, 2 * text.length ≤ fuel → EndsNumber rest →
    ∃ after, IsSpace after ∧
      value? fuel depth (text ++ rest) = (t.value? depth).map (·, after ++ rest)

/-- A text that is read up to its end by a reader that has any fuel. -/
theorem reads_of_value? {text : List Char} {t : Tree} (hpos : 0 < text.length)
    (h : ∀ fuel depth rest, 2 * text.length ≤ fuel + 1 → EndsNumber rest →
      value? (fuel + 1) depth (text ++ rest) = (t.value? depth).map (·, rest)) : Reads text t := by
  intro fuel depth rest hfuel hrest
  obtain ⟨fuel, rfl⟩ := Nat.exists_eq_add_one.mpr (show 0 < fuel by omega)
  exact ⟨[], isSpace_nil, h fuel depth rest hfuel hrest⟩

theorem exists_cons_text (n : Numeral) :
    ∃ c more, n.text = c :: more ∧ (c = '-' ∨ c.isDigit = true) := by
  obtain ⟨d, ds, hwhole, hd⟩ := exists_cons_digits n.isWhole
  rw [Numeral.text, hwhole]
  cases n.negative with
  | true => exact ⟨'-', _, rfl, .inl rfl⟩
  | false => exact ⟨d, _, rfl, .inr hd⟩

theorem not_blank_of_front {c : Char} (hc : c = '-' ∨ c.isDigit = true) :
    c ∉ [' ', '\t', '\n', '\r'] ∧ c ≠ ']' := by
  constructor
  · intro hmem
    simp only [List.mem_cons, List.not_mem_nil, or_false] at hmem
    rcases hmem with rfl | rfl | rfl | rfl <;> revert hc <;> decide
  · rintro rfl
    revert hc
    decide

theorem reads_number (n : Numeral) : Reads n.text (.number n) := by
  obtain ⟨c, more, htext, hc⟩ := exists_cons_text n
  have hspace := (not_blank_of_front hc).1
  refine reads_of_value? (by rw [htext]; exact Nat.succ_pos _) fun fuel depth rest hfuel hrest => ?_
  have hnumber := number?_text n hrest
  rw [htext, List.cons_append] at hnumber ⊢
  rw [value?_number (.inr hc) (skipSpace_cons hspace _), hnumber, Tree.value?]
  cases n.literal.value? <;> rfl

theorem reads_string (pieces : List Piece) : Reads (quotedText pieces) (.string pieces) := by
  refine reads_of_value? (Nat.succ_pos _) fun fuel depth rest hfuel hrest => ?_
  have hread := string?_pieces pieces [] rest
  simp only [quotedText, List.cons_append, List.append_assoc, List.nil_append, value?]
  rw [skipSpace_cons (by decide)]
  simp only [hread, Tree.value?]
  cases decode? pieces <;> simp

theorem mapM_cons_of_some {α β : Type} {f : α → Option β} {x : α} {y : β} (h : f x = some y)
    (xs : List α) : (x :: xs).mapM f = (xs.mapM f).map (y :: ·) := by
  rw [List.mapM_cons, h]
  cases xs.mapM f <;> rfl

theorem mapM_cons_of_none {α β : Type} {f : α → Option β} {x : α} (h : f x = none) (xs : List α) :
    (x :: xs).mapM f = none := by
  rw [List.mapM_cons, h]
  rfl

theorem commaJoined_cons (first second : List Char) (others : List (List Char)) :
    commaJoined first (second :: others) = first ++ ',' :: commaJoined second others := by
  simp [commaJoined]

/-- The items of an array are read one after another, and the array has a value if each of them has.
-/
theorem items?_joined (fuel depth : Nat) {first : List Char × Tree}
    {others : List (List Char × Tree)} (h : ∀ item ∈ first :: others, Reads item.1 item.2)
    (read : List Json) (rest : List Char)
    (hfuel : 2 * (commaJoined first.1 (others.map (·.1))).length < fuel) :
    items? fuel depth read (commaJoined first.1 (others.map (·.1)) ++ ']' :: rest) =
      (((first :: others).map (·.2)).mapM (Tree.value? depth)).map fun vs =>
        (.array (read.reverse ++ vs), rest) := by
  obtain ⟨fuel, rfl⟩ := Nat.exists_eq_add_one.mpr (Nat.zero_lt_of_lt hfuel)
  induction others generalizing first fuel read with
  | nil =>
    obtain ⟨after, hafter, hvalue⟩ := h first List.mem_cons_self fuel depth (']' :: rest)
      (by simp [commaJoined] at hfuel; omega) (by rintro c ⟨⟩; decide)
    simp only [commaJoined, List.map_nil, List.flatMap_nil, List.append_nil, items?, hvalue]
    cases hv : first.2.value? depth with
    | none => simp [hv]
    | some v => simp [hv, skipSpace_append hafter, skipSpace_cons]
  | cons second others ih =>
    rw [List.map_cons, commaJoined_cons, List.length_append, List.length_cons] at hfuel
    obtain ⟨after, hafter, hvalue⟩ := h first List.mem_cons_self fuel depth
      (',' :: (commaJoined second.1 (others.map (·.1)) ++ ']' :: rest)) (by omega)
      (by rintro c ⟨⟩; decide)
    rw [List.map_cons, commaJoined_cons, List.append_assoc, List.cons_append, items?, hvalue,
      List.map_cons]
    cases hv : first.2.value? depth with
    | none => rw [mapM_cons_of_none hv]; rfl
    | some v =>
      obtain ⟨fuel, rfl⟩ : ∃ k, fuel = k + 1 := Nat.exists_eq_add_one.mpr (by omega)
      rw [mapM_cons_of_some hv, Option.map_map]
      simp only [Option.map_some, skipSpace_append hafter, skipSpace_cons (c := ',') (by decide)]
      rw [ih (fun item hitem => h item (List.mem_cons_of_mem _ hitem)) (v :: read) fuel (by omega)]
      simp [Function.comp_def]

/-- The key and the value of a member. -/
def memberValue? (depth : Nat) (m : List Piece × Tree) : Option (String × Json) :=
  (decode? m.1).bind fun key => (m.2.value? depth).map (String.ofList key, ·)

/-- A member is read up to the comma or the brace after it. -/
theorem members?_spelling {m : Member} (h : Reads m.text m.tree) {c : Char}
    (hc : c = ',' ∨ c = '\x7d') (read : List (String × Json)) (rest : List Char)
    (hfuel : 2 * m.text.length ≤ fuel) :
    members? (fuel + 1) depth read (m.spelling ++ c :: rest) =
      (memberValue? depth (m.key, m.tree)).bind fun v =>
        if c = ',' then members? fuel depth (v :: read) rest
        else some (.object (v :: read).reverse, rest) := by
  have hends : EndsNumber (c :: rest) := by
    rintro c' ⟨⟩
    rcases hc with rfl | rfl <;> decide
  obtain ⟨after, hafter, hvalue⟩ := h fuel depth (c :: rest) hfuel hends
  have hkey := string?_pieces m.key [] (m.after ++ ':' :: (m.text ++ c :: rest))
  simp only [Member.spelling, quotedText, List.append_assoc, List.cons_append, List.nil_append,
    members?, skipSpace_append m.isSpace.1, skipSpace_cons (c := '"') (by decide), hkey,
    memberValue?]
  cases decode? m.key with
  | none => rfl
  | some key =>
    simp only [Option.map_some, Option.bind_some, skipSpace_append m.isSpace.2,
      skipSpace_cons (c := ':') (by decide), hvalue]
    cases m.tree.value? depth with
    | none => rfl
    | some v => rcases hc with rfl | rfl <;> simp [skipSpace_append hafter, skipSpace_cons]

theorem length_text_lt (m : Member) : m.text.length < m.spelling.length := by
  simp only [Member.spelling, List.length_append, List.length_cons]
  omega

/-- The members of an object are read one after another, and the object has a value if each of them
has a key and a value. -/
theorem members?_joined (fuel depth : Nat) {first : Member} {others : List Member}
    (h : ∀ m ∈ first :: others, Reads m.text m.tree) (read : List (String × Json)) (rest : List Char)
    (hfuel : 2 * (commaJoined first.spelling (others.map Member.spelling)).length < fuel) :
    members? fuel depth read
        (commaJoined first.spelling (others.map Member.spelling) ++ '\x7d' :: rest) =
      (((first :: others).map fun m => (m.key, m.tree)).mapM (memberValue? depth)).map fun vs =>
        (.object (read.reverse ++ vs), rest) := by
  have hlength := length_text_lt first
  have hfirst := h first List.mem_cons_self
  obtain ⟨fuel, rfl⟩ := Nat.exists_eq_add_one.mpr (Nat.zero_lt_of_lt hfuel)
  induction others generalizing first fuel read with
  | nil =>
    simp only [commaJoined, List.map_nil, List.flatMap_nil, List.append_nil] at hfuel ⊢
    rw [members?_spelling hfirst (.inr rfl) read rest (by omega), List.map_cons, List.map_nil]
    cases hv : memberValue? depth (first.key, first.tree) with
    | none => rw [mapM_cons_of_none hv]; rfl
    | some v => rw [mapM_cons_of_some hv]; simp
  | cons second others ih =>
    rw [List.map_cons, commaJoined_cons, List.length_append, List.length_cons] at hfuel
    rw [List.map_cons, commaJoined_cons, List.append_assoc, List.cons_append,
      members?_spelling hfirst (.inl rfl) read _ (by omega), List.map_cons]
    cases hv : memberValue? depth (first.key, first.tree) with
    | none => rw [mapM_cons_of_none hv]; rfl
    | some v =>
      obtain ⟨fuel, rfl⟩ : ∃ k, fuel = k + 1 := Nat.exists_eq_add_one.mpr (by omega)
      rw [mapM_cons_of_some hv, Option.map_map, Option.bind_some, if_pos rfl,
        ih (fun m hm => h m (List.mem_cons_of_mem _ hm)) (v :: read) (length_text_lt second)
          (h second (by simp)) fuel (by omega)]
      simp [Function.comp_def]

/-- What stands first in a value ends no array. -/
theorem exists_front {text : List Char} {t : Tree} (h : Derives text t) :
    ∃ before c more, text = before ++ c :: more ∧ IsSpace before ∧
      c ∉ [' ', '\t', '\n', '\r'] ∧ c ≠ ']' := by
  induction h with
  | number n =>
    obtain ⟨c, more, htext, hc⟩ := exists_cons_text n
    exact ⟨[], c, more, htext, isSpace_nil, not_blank_of_front hc⟩
  | padded hbefore hafter h ih =>
    obtain ⟨inner, c, more, rfl, hinner, hc⟩ := ih
    exact ⟨_ ++ inner, c, _, by simp only [List.append_assoc, List.cons_append]; rfl,
      List.forall_mem_append.mpr ⟨hbefore, hinner⟩, hc⟩
  | _ => exact ⟨[], _, _, rfl, isSpace_nil, by decide, by decide⟩

theorem items?_append_space {before : List Char} (h : IsSpace before) (read : List Json)
    (cs : List Char) : items? fuel depth read (before ++ cs) = items? fuel depth read cs := by
  cases fuel with
  | zero => rfl
  | succ fuel => rw [items?, items?, value?_append_space h]

theorem members?_append_space {before : List Char} (h : IsSpace before)
    (read : List (String × Json)) (cs : List Char) :
    members? fuel depth read (before ++ cs) = members? fuel depth read cs := by
  cases fuel with
  | zero => rfl
  | succ fuel => rw [members?, members?, skipSpace_append h]

theorem value?_items (fuel depth : Nat) {before : List Char} (hbefore : IsSpace before) {c : Char}
    (hspace : c ∉ [' ', '\t', '\n', '\r']) (hc : c ≠ ']') (more : List Char) :
    value? (fuel + 1) (depth + 1) ('[' :: (before ++ c :: more)) =
      items? fuel depth [] (before ++ c :: more) := by
  rw [items?_append_space hbefore, value?, skipSpace_cons (by decide)]
  simp only [skipSpace_append hbefore, skipSpace_cons hspace]
  split
  · next heq => exact absurd (List.cons.inj heq).1 hc
  · rfl

theorem value?_members (fuel depth : Nat) {before : List Char} (hbefore : IsSpace before)
    (more : List Char) :
    value? (fuel + 1) (depth + 1) ('\x7b' :: (before ++ '"' :: more)) =
      members? fuel depth [] (before ++ '"' :: more) := by
  rw [members?_append_space hbefore, value?, skipSpace_cons (by decide)]
  simp only [skipSpace_append hbefore, skipSpace_cons (c := '"') (by decide)]
  rfl

theorem reads_array {first : List Char × Tree} {others : List (List Char × Tree)}
    (h : Derives first.1 first.2) (ih : ∀ item ∈ first :: others, Reads item.1 item.2) :
    Reads ('[' :: commaJoined first.1 (others.map (·.1)) ++ [']'])
      (.array ((first :: others).map (·.2))) := by
  refine reads_of_value? (Nat.succ_pos _) fun fuel depth rest hfuel hrest => ?_
  rw [List.length_append, List.length_cons, List.length_singleton] at hfuel
  cases depth with
  | zero => simp [value?, skipSpace_cons, Tree.value?]
  | succ depth =>
    have hitems := items?_joined fuel depth ih [] rest (by omega)
    obtain ⟨before, c, more, hfirst, hbefore, hspace, hend⟩ := exists_front h
    have hopen := value?_items fuel depth hbefore hspace hend
      (more ++ (others.map (·.1)).flatMap (',' :: ·) ++ ']' :: rest)
    have htext : commaJoined first.1 (others.map (·.1)) ++ ']' :: rest =
        before ++ c :: (more ++ (others.map (·.1)).flatMap (',' :: ·) ++ ']' :: rest) := by
      simp [commaJoined, hfirst]
    rw [← htext, hitems] at hopen
    rw [List.cons_append, List.cons_append, List.append_assoc, List.singleton_append, hopen,
      Tree.value?]
    simp [Function.comp_def]

theorem reads_object {first : Member} {others : List Member}
    (ih : ∀ m ∈ first :: others, Reads m.text m.tree) :
    Reads ('\x7b' :: commaJoined first.spelling (others.map Member.spelling) ++ ['\x7d'])
      (.object ((first :: others).map fun m => (m.key, m.tree))) := by
  refine reads_of_value? (Nat.succ_pos _) fun fuel depth rest hfuel hrest => ?_
  rw [List.length_append, List.length_cons, List.length_singleton] at hfuel
  cases depth with
  | zero => simp [value?, skipSpace_cons, Tree.value?]
  | succ depth =>
    have hmembers := members?_joined fuel depth ih [] rest (by omega)
    obtain ⟨more, htext⟩ : ∃ more, commaJoined first.spelling (others.map Member.spelling) ++
        '\x7d' :: rest = first.before ++ '"' :: more :=
      ⟨_, by simp only [commaJoined, Member.spelling, quotedText, List.append_assoc,
        List.cons_append]; rfl⟩
    have hopen := value?_members fuel depth first.isSpace.1 more
    rw [← htext, hmembers] at hopen
    rw [List.cons_append, List.cons_append, List.append_assoc, List.singleton_append, hopen,
      Tree.value?, Option.map_map]
    rfl

/-- The reader makes of every text that the grammar derives what its tree is worth. -/
theorem reads_of_derives {text : List Char} {t : Tree} (h : Derives text t) : Reads text t := by
  induction h with
  | null | yes | no =>
    refine reads_of_value? (Nat.succ_pos _) fun fuel depth rest hfuel hrest => ?_
    simp [value?, skipSpace, Tree.value?]
  | number n => exact reads_number n
  | string pieces => exact reads_string pieces
  | emptyArray h =>
    refine reads_of_value? (Nat.succ_pos _) fun fuel depth rest hfuel hrest => ?_
    cases depth <;> simp [value?, skipSpace_cons, skipSpace_append h, Tree.value?]
  | array first others h ih => exact reads_array (h first List.mem_cons_self) ih
  | emptyObject h =>
    refine reads_of_value? (Nat.succ_pos _) fun fuel depth rest hfuel hrest => ?_
    cases depth <;> simp [value?, skipSpace_cons, skipSpace_append h, Tree.value?]
  | object first others h ih => exact reads_object ih
  | @padded before text after t hbefore hafter h ih =>
    intro fuel depth rest hfuel hrest
    obtain ⟨more, hmore, hvalue⟩ := ih fuel depth (after ++ rest)
      (by simp at hfuel; omega) (endsNumber_space_append hafter hrest)
    refine ⟨more ++ after, List.forall_mem_append.mpr ⟨hmore, hafter⟩, ?_⟩
    rw [List.append_assoc, List.append_assoc, value?_append_space hbefore, hvalue, List.append_assoc]

end Values

end ModuleCatalog.Json.Reader

namespace ModuleCatalog.Json

/-- A text that the grammar derives has the value of its tree, and is no text that the reader takes
if the tree has none. -/
theorem parse?_of_derives {body : String} {t : Tree} (h : Derives body.toList t) :
    parse? body = t.value? Reader.maxDepth := by
  obtain ⟨after, hafter, hvalue⟩ := Reader.reads_of_derives h (2 * body.toList.length + 2)
    Reader.maxDepth [] (by omega) nofun
  rw [List.append_nil, List.append_nil] at hvalue
  rw [parse?, hvalue]
  cases t.value? Reader.maxDepth with
  | none => rfl
  | some v => exact if_pos (Reader.isEmpty_skipSpace hafter)

end ModuleCatalog.Json
