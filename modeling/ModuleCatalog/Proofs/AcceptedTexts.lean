import ModuleCatalog.Proofs.GrammaticalTexts

/-!
The texts that the reader takes. Each of them is derived by the grammar, as a tree whose value is
the one that was read, so that the grammar leaves out nothing.
-/
namespace ModuleCatalog.Json.Reader

open Decimal (IsDigits)

variable {cs rest : List Char}

theorem exists_skipSpace (cs : List Char) : ∃ before, IsSpace before ∧ cs = before ++ skipSpace cs := by
  have hcons {c : Char} {cs : List Char} (hc : c ∈ [' ', '\t', '\n', '\r'])
      (ih : ∃ before, IsSpace before ∧ cs = before ++ skipSpace cs) :
      ∃ before, IsSpace before ∧ c :: cs = before ++ skipSpace cs := by
    obtain ⟨before, hbefore, hcs⟩ := ih
    exact ⟨c :: before, List.forall_mem_cons.mpr ⟨hc, hbefore⟩, congrArg (c :: ·) hcs⟩
  fun_induction skipSpace cs with
  | case1 cs ih | case2 cs ih | case3 cs ih | case4 cs ih => exact hcons (by decide) ih
  | case5 cs => exact ⟨[], isSpace_nil, rfl⟩

section Strings

theorem exists_of_codeUnit? {unit : Nat} (h : codeUnit? cs = some unit) :
    ∃ a b c d more, cs = a :: b :: c :: d :: more ∧ (IsHex a ∧ IsHex b ∧ IsHex c ∧ IsHex d) ∧
      codeUnit a b c d = unit := by
  unfold codeUnit? at h
  split at h
  · next a b c d more =>
    split at h
    · next na nb nc nd ha hb hc hd =>
      cases h
      have hhex {c : Char} {n : Nat} (h : Text.hexValue? c = some n) : IsHex c :=
        isHex_iff_exists_value.mpr ⟨n, h⟩
      exact ⟨a, b, c, d, more, rfl, ⟨hhex ha, hhex hb, hhex hc, hhex hd⟩,
        by simp [codeUnit, ha, hb, hc, hd]⟩
    · cases h
  · cases h

theorem mem_escapeLetters {letter c : Char} (h : shortEscape? letter = some c) :
    letter ∈ escapeLetters := by
  unfold shortEscape? at h
  split at h
  all_goals first
    | decide
    | cases h

/-- A code unit that is no half of a pair is a character, whatever follows it. -/
theorem decode?_unit {a b c d : Char} {h : IsHex a ∧ IsHex b ∧ IsHex c ∧ IsHex d}
    (hleading : isLeading (codeUnit a b c d) = false)
    (htrailing : isTrailing (codeUnit a b c d) = false) (pieces : List Piece) :
    decode? (.unit a b c d h :: pieces) =
      (decode? pieces).map (.ofNat (codeUnit a b c d) :: ·) := by
  cases pieces with
  | nil => simp [decode?, hleading, htrailing]
  | cons piece pieces => cases piece <;> simp [decode?, hleading, htrailing]

theorem exists_of_pairedWith? {high : Nat} {joint : Char} (h : pairedWith? high cs = some joint) :
    ∃ a b c d more, cs = '\\' :: 'u' :: a :: b :: c :: d :: more ∧
      (IsHex a ∧ IsHex b ∧ IsHex c ∧ IsHex d) ∧ isTrailing (codeUnit a b c d) = true ∧
      joint = .ofNat (0x10000 + (high - 0xD800) * 0x400 + (codeUnit a b c d - 0xDC00)) := by
  unfold pairedWith? at h
  split at h
  · next after =>
    split at h
    · next low hlow =>
      obtain ⟨a, b, c, d, more, rfl, hhex, rfl⟩ := exists_of_codeUnit? hlow
      split at h
      · next htrailing => exact ⟨a, b, c, d, more, rfl, hhex, htrailing, (Option.some.inj h).symm⟩
      · cases h
    · cases h
  · cases h

/-- An escape is spelled by pieces that stand for its character. -/
theorem exists_pieces_of_escape? {c : Char} {n : Nat} (h : escape? cs = some (c, n)) :
    ∃ escape : List Piece, ∃ passed more, passed.length = n ∧ cs = passed ++ more ∧
      escape.flatMap Piece.text = '\\' :: passed ∧
      ∀ pieces, decode? (escape ++ pieces) = (decode? pieces).map (c :: ·) := by
  unfold escape? at h
  split at h
  · next more =>
    split at h
    · cases h
    · next unit hunit =>
      obtain ⟨x, y, z, w, after, rfl, hhex, rfl⟩ := exists_of_codeUnit? hunit
      split at h
      · next hleading =>
        obtain ⟨joint, hjoint, heq⟩ := Option.map_eq_some_iff.mp h
        cases heq
        change pairedWith? _ after = _ at hjoint
        obtain ⟨x', y', z', w', more, rfl, hhex', htrailing, hvalue⟩ := exists_of_pairedWith? hjoint
        refine ⟨[.unit x y z w hhex, .unit x' y' z' w' hhex'],
          ['u', x, y, z, w, '\\', 'u', x', y', z', w'], more, rfl, by simp, rfl, fun pieces => ?_⟩
        have hleads : isLeading (codeUnit x y z w) = true := hleading
        simp only [List.cons_append, List.nil_append, decode?, hleads, htrailing, if_true, hvalue]
      · next hleading =>
        split at h
        · cases h
        · next htrailing =>
          cases h
          refine ⟨[.unit x y z w hhex], ['u', x, y, z, w], after, rfl, rfl, rfl, fun pieces => ?_⟩
          exact decode?_unit (by simpa [isLeading] using hleading)
            (by simpa [isTrailing] using htrailing) pieces
  · next letter more _ =>
    obtain ⟨d, hd, heq⟩ := Option.map_eq_some_iff.mp h
    cases heq
    refine ⟨[.short letter (mem_escapeLetters hd)], [letter], more, rfl, rfl, rfl, fun pieces => ?_⟩
    simp [decode?, hd]
  · cases h

/-- What is read as a string is spelled by pieces up to a quote. -/
theorem exists_pieces_of_string? {read : List Char} {s : String}
    (h : string? 0 read cs = some (s, rest)) :
    ∃ pieces chars, cs = pieces.flatMap Piece.text ++ '"' :: rest ∧ decode? pieces = some chars ∧
      s = .ofList (read.reverse ++ chars) := by
  -- an escape takes several characters at once, so that the induction is on the length
  induction hn : cs.length using Nat.strong_induction_on generalizing cs read with
  | _ n ih =>
  cases cs with
  | nil => cases h
  | cons c cs =>
    rw [List.length_cons] at hn
    rw [string?] at h
    split at h
    · next hquote =>
      cases h
      exact ⟨[], [], by rw [hquote]; rfl, rfl, by rw [List.append_nil]⟩
    split at h
    · next hbackslash =>
      split at h
      · next d k hescape =>
        obtain ⟨escape, passed, more, hpassed, rfl, htext, hdecode⟩ :=
          exists_pieces_of_escape? hescape
        rw [string?_drop k _ hpassed] at h
        rw [List.length_append] at hn
        obtain ⟨pieces, chars, rfl, hchars, rfl⟩ := ih _ (by omega) h rfl
        refine ⟨escape ++ pieces, d :: chars, ?_, by rw [hdecode, hchars]; rfl, by simp⟩
        rw [hbackslash, List.flatMap_append, htext]
        simp
      · cases h
    split at h
    · cases h
    · next hquote hbackslash hcontrol =>
      obtain ⟨pieces, chars, rfl, hchars, rfl⟩ := ih _ (by omega) h rfl
      exact ⟨.plain c ⟨hquote, hbackslash, Nat.le_of_not_lt hcontrol⟩ :: pieces, c :: chars, rfl,
        by simp [decode?, hchars], by simp⟩

end Strings

section Numbers

theorem exists_of_digits {values : List Nat} (h : digits cs = (values, rest)) :
    ∃ ds, cs = ds ++ rest ∧ values = digitValues ds ∧ ∀ c ∈ ds, c.isDigit = true := by
  cases h
  exact ⟨cs.takeWhile Char.isDigit, List.takeWhile_append_dropWhile.symm, rfl,
    fun c hc => List.mem_takeWhile_imp hc⟩

theorem exists_of_whole? {values : List Nat} (h : whole? cs = some (values, rest)) :
    ∃ ds, cs = ds ++ rest ∧ values = digitValues ds ∧ IsDigits ds ∧
      (ds = ['0'] ∨ ds.head? ≠ some '0') := by
  have hdigits := whole?_eq_some h
  obtain ⟨ds, rfl, rfl, hds⟩ := exists_of_digits hdigits
  rw [whole?, hdigits] at h
  cases ds with
  | nil => cases h
  | cons d ds =>
    refine ⟨d :: ds, rfl, rfl, ⟨List.cons_ne_nil _ _, hds⟩, ?_⟩
    by_cases hd : d = '0'
    · left
      subst hd
      cases ds with
      | nil => rfl
      | cons second ds => cases h
    · exact .inr fun hhead => hd (Option.some.inj hhead)

theorem exists_of_fraction? {values : List Nat} (h : fraction? cs = some (values, rest)) :
    ∃ fraction : Option (List Char), cs = fraction.elim [] ('.' :: ·) ++ rest ∧
      values = fraction.elim [] digitValues ∧ ∀ ds, fraction = some ds → IsDigits ds := by
  unfold fraction? at h
  split at h
  · split at h
    · cases h
    · next vs after hne hdigits =>
      cases h
      obtain ⟨ds, rfl, rfl, hds⟩ := exists_of_digits hdigits
      refine ⟨some ds, rfl, rfl, fun ds' hds' => ?_⟩
      cases hds'
      refine ⟨?_, hds⟩
      rintro rfl
      exact hne rfl
  · cases h
    exact ⟨none, rfl, rfl, nofun⟩

theorem exists_of_exponentDigits? {down : Bool} {parts : Option (Bool × List Nat)}
    (h : exponentDigits? down cs = some (parts, rest)) :
    ∃ ds, cs = ds ++ rest ∧ IsDigits ds ∧ parts = some (down, digitValues ds) := by
  unfold exponentDigits? at h
  split at h
  · cases h
  · next vs after hne hdigits =>
    cases h
    obtain ⟨ds, rfl, rfl, hds⟩ := exists_of_digits hdigits
    refine ⟨ds, rfl, ⟨?_, hds⟩, rfl⟩
    rintro rfl
    exact hne rfl

theorem exists_of_exponent? {parts : Option (Bool × List Nat)}
    (h : exponent? cs = some (parts, rest)) :
    ∃ exponent : Option Exponent, cs = exponent.elim [] Exponent.text ++ rest ∧
      parts = exponent.map Exponent.parts := by
  unfold exponent? at h
  split at h
  · next c after =>
    split at h
    · next hletter =>
      have hc : c = 'e' ∨ c = 'E' := by simpa using hletter
      split at h
      · obtain ⟨ds, rfl, hds, rfl⟩ := exists_of_exponentDigits? h
        exact ⟨some ⟨c, ['+'], ds, hc, .inr (.inl rfl), hds⟩, rfl, rfl⟩
      · obtain ⟨ds, rfl, hds, rfl⟩ := exists_of_exponentDigits? h
        exact ⟨some ⟨c, ['-'], ds, hc, .inr (.inr rfl), hds⟩, rfl, rfl⟩
      · obtain ⟨ds, rfl, hds, rfl⟩ := exists_of_exponentDigits? h
        exact ⟨some ⟨c, [], ds, hc, .inl rfl, hds⟩, rfl, rfl⟩
    · cases h
      exact ⟨none, rfl, rfl⟩
  · cases h
    exact ⟨none, rfl, rfl⟩

/-- What is read as a literal after the sign is the rest of a number. -/
theorem exists_of_literal? {negative : Bool} {l : Literal}
    (h : literal? negative cs = some (l, rest)) :
    ∃ n : Numeral, (if negative then ['-'] else []) ++ cs = n.text ++ rest ∧ n.literal = l := by
  obtain ⟨⟨whole, cs₁⟩, hwhole, h⟩ := Option.bind_eq_some_iff.mp h
  obtain ⟨⟨fraction, cs₂⟩, hfraction, h⟩ := Option.bind_eq_some_iff.mp h
  obtain ⟨⟨exponent, cs₃⟩, hexponent, h⟩ := Option.bind_eq_some_iff.mp h
  cases h
  obtain ⟨ds, rfl, rfl, hds, hzero⟩ := exists_of_whole? hwhole
  obtain ⟨fraction, rfl, rfl, hdigits⟩ := exists_of_fraction? hfraction
  obtain ⟨exponent, rfl, rfl⟩ := exists_of_exponent? hexponent
  exact ⟨⟨negative, ds, fraction, exponent, hds, hzero, hdigits⟩,
    by simp only [Numeral.text, List.append_assoc], rfl⟩

theorem exists_numeral_of_number? {number : Number} (h : number? cs = some (number, rest)) :
    ∃ n : Numeral, cs = n.text ++ rest ∧ n.literal.value? = some number := by
  have hliteral : ∃ negative more l, (if negative then ['-'] else []) ++ more = cs ∧
      literal? negative more = some (l, rest) ∧ l.value? = some number := by
    unfold number? at h
    split at h
    all_goals
      obtain ⟨⟨l, after⟩, hl, hvalue⟩ := Option.bind_eq_some_iff.mp h
      obtain ⟨n, hn, heq⟩ := Option.bind_eq_some_iff.mp hvalue
      cases heq
    · exact ⟨true, _, l, rfl, hl, hn⟩
    · exact ⟨false, _, l, rfl, hl, hn⟩
  obtain ⟨negative, more, l, rfl, hl, hvalue⟩ := hliteral
  obtain ⟨n, htext, rfl⟩ := exists_of_literal? hl
  exact ⟨n, htext, hvalue⟩

end Numbers

section Values

variable {fuel depth : Nat} {v : Json}

/-- Says that what stands before the rest is derived as a tree with a value. -/
def IsValue (depth : Nat) (cs rest : List Char) (v : Json) : Prop :=
  ∃ text t, cs = text ++ rest ∧ Derives text t ∧ t.value? depth = some v

/-- Says that what stands before the rest are the items of an array, and its closing bracket. -/
def AreItems (depth : Nat) (cs rest : List Char) (vs : List Json) : Prop :=
  ∃ (first : List Char × Tree) (others : List (List Char × Tree)),
    cs = commaJoined first.1 (others.map (·.1)) ++ ']' :: rest ∧
    (∀ item ∈ first :: others, Derives item.1 item.2) ∧
    ((first :: others).map (·.2)).mapM (Tree.value? depth) = some vs

/-- Says that what stands before the rest are the members of an object, and its closing brace. -/
def AreMembers (depth : Nat) (cs rest : List Char) (vs : List (String × Json)) : Prop :=
  ∃ (first : Member) (others : List Member),
    cs = commaJoined first.spelling (others.map Member.spelling) ++ '\x7d' :: rest ∧
    (∀ m ∈ first :: others, Derives m.text m.tree) ∧
    ((first :: others).map fun m => (m.key, m.tree)).mapM (memberValue? depth) = some vs

theorem IsValue.padded (rest : List Char) {before text : List Char} {t : Tree} (hbefore : IsSpace before)
    (h : Derives text t) (hvalue : t.value? depth = some v) :
    IsValue depth (before ++ (text ++ rest)) rest v := by
  refine ⟨before ++ text, t, (List.append_assoc _ _ _).symm, ?_, hvalue⟩
  have hpadded := Derives.padded hbefore isSpace_nil h
  rwa [List.append_nil] at hpadded

/-- A value may be followed by blanks. -/
theorem IsValue.skipSpace (h : IsValue depth cs rest v) : IsValue depth cs (skipSpace rest) v := by
  obtain ⟨text, t, rfl, ht, hvalue⟩ := h
  obtain ⟨blank, hblank, hrest⟩ := exists_skipSpace rest
  exact ⟨text ++ blank, t, by rw [List.append_assoc, ← hrest],
    .padded isSpace_nil hblank ht, hvalue⟩

theorem AreItems.isValue {vs : List Json} {before : List Char} (hbefore : IsSpace before)
    (h : AreItems depth cs rest vs) :
    IsValue (depth + 1) (before ++ '[' :: cs) rest (.array vs) := by
  obtain ⟨first, others, rfl, hitems, hvalues⟩ := h
  have hvalue : (Tree.array ((first :: others).map (·.2))).value? (depth + 1) = some (.array vs) := by
    rw [Tree.value?, hvalues, Option.map_some]
  have hvalue' := IsValue.padded rest hbefore (.array first others hitems) hvalue
  simpa only [List.cons_append, List.append_assoc, List.nil_append] using hvalue'

theorem AreMembers.isValue {vs : List (String × Json)} {before : List Char}
    (hbefore : IsSpace before) (h : AreMembers depth cs rest vs) :
    IsValue (depth + 1) (before ++ '\x7b' :: cs) rest (.object vs) := by
  obtain ⟨first, others, rfl, hmembers, hvalues⟩ := h
  have hvalue : (Tree.object ((first :: others).map fun m => (m.key, m.tree))).value? (depth + 1) =
      some (.object vs) := by
    rw [Tree.value?]
    exact congrArg (Option.map Json.object) hvalues
  have hvalue' := IsValue.padded rest hbefore (.object first others hmembers) hvalue
  simpa only [List.cons_append, List.append_assoc, List.nil_append] using hvalue'

theorem AreItems.single (h : IsValue depth cs (']' :: rest) v) : AreItems depth cs rest [v] := by
  obtain ⟨text, t, rfl, ht, hvalue⟩ := h
  refine ⟨(text, t), [], by simp [commaJoined], ?_, ?_⟩
  · rintro item hitem
    obtain rfl := List.mem_singleton.mp hitem
    exact ht
  · rw [List.map_cons, mapM_cons_of_some hvalue]
    rfl

theorem AreItems.cons {more : List Char} {vs : List Json} (h : IsValue depth cs (',' :: more) v)
    (hmore : AreItems depth more rest vs) : AreItems depth cs rest (v :: vs) := by
  obtain ⟨text, t, rfl, ht, hvalue⟩ := h
  obtain ⟨first, others, rfl, hitems, hvalues⟩ := hmore
  refine ⟨(text, t), first :: others, ?_, List.forall_mem_cons.mpr ⟨ht, hitems⟩, ?_⟩
  · rw [List.map_cons, commaJoined_cons, List.append_assoc, List.cons_append]
  · rw [List.map_cons, mapM_cons_of_some hvalue, hvalues]
    rfl

theorem AreMembers.single {m : Member} {key : List Char} (hkey : decode? m.key = some key)
    (h : Derives m.text m.tree) (hvalue : m.tree.value? depth = some v) (rest : List Char) :
    AreMembers depth (m.spelling ++ '\x7d' :: rest) rest [(.ofList key, v)] := by
  refine ⟨m, [], by simp [commaJoined], ?_, ?_⟩
  · rintro m' hm
    obtain rfl := List.mem_singleton.mp hm
    exact h
  · have hmember : memberValue? depth (m.key, m.tree) = some (.ofList key, v) := by
      simp [memberValue?, hkey, hvalue]
    rw [List.map_cons, mapM_cons_of_some hmember]
    rfl

theorem AreMembers.cons {m : Member} {key more : List Char} {vs : List (String × Json)}
    (hkey : decode? m.key = some key) (h : Derives m.text m.tree)
    (hvalue : m.tree.value? depth = some v) (hmore : AreMembers depth more rest vs) :
    AreMembers depth (m.spelling ++ ',' :: more) rest ((.ofList key, v) :: vs) := by
  obtain ⟨first, others, rfl, hmembers, hvalues⟩ := hmore
  refine ⟨m, first :: others, ?_, List.forall_mem_cons.mpr ⟨h, hmembers⟩, ?_⟩
  · rw [List.map_cons, commaJoined_cons, List.append_assoc, List.cons_append]
  · have hmember : memberValue? depth (m.key, m.tree) = some (.ofList key, v) := by
      simp [memberValue?, hkey, hvalue]
    rw [List.map_cons, mapM_cons_of_some hmember, hvalues]
    rfl

/-- What the reader took with some fuel is derived. -/
structure Sound (fuel : Nat) : Prop where
  value : ∀ {depth cs v rest}, value? fuel depth cs = some (v, rest) → IsValue depth cs rest v
  items : ∀ {depth read cs v rest}, items? fuel depth read cs = some (v, rest) →
    ∃ vs, v = .array (read.reverse ++ vs) ∧ AreItems depth cs rest vs
  members : ∀ {depth read cs v rest}, members? fuel depth read cs = some (v, rest) →
    ∃ vs, v = .object (read.reverse ++ vs) ∧ AreMembers depth cs rest vs

theorem Sound.value_succ (hsound : Sound fuel) (h : value? (fuel + 1) depth cs = some (v, rest)) :
    IsValue depth cs rest v := by
  obtain ⟨before, hbefore, hcs⟩ := exists_skipSpace cs
  rw [hcs]
  rw [value?] at h
  split at h
  · next hspace =>
    cases h
    rw [hspace]
    exact .padded rest hbefore .null (by rw [Tree.value?])
  · next hspace =>
    cases h
    rw [hspace]
    exact .padded rest hbefore .yes (by rw [Tree.value?])
  · next hspace =>
    cases h
    rw [hspace]
    exact .padded rest hbefore .no (by rw [Tree.value?])
  · next more hspace =>
    obtain ⟨⟨s, after⟩, hstring, heq⟩ := Option.map_eq_some_iff.mp h
    cases heq
    obtain ⟨pieces, chars, rfl, hchars, rfl⟩ := exists_pieces_of_string? hstring
    rw [hspace]
    have hvalue : (Tree.string pieces).value? depth = some (.string (.ofList chars)) := by
      rw [Tree.value?, hchars, Option.map_some]
    have hvalue' := IsValue.padded rest hbefore (.string pieces) hvalue
    simpa [quotedText] using hvalue'
  · next more hspace =>
    rw [hspace]
    split at h
    · cases h
    · next depth =>
      obtain ⟨blank, hblank, hmore⟩ := exists_skipSpace more
      split at h
      · next after hclosed =>
        cases h
        rw [hmore, hclosed]
        have hvalue : (Tree.array []).value? (depth + 1) = some (.array []) := by simp [Tree.value?]
        have hvalue' := IsValue.padded rest hbefore (.emptyArray hblank) hvalue
        simpa using hvalue'
      · rw [← items?_append_space hblank, ← hmore] at h
        obtain ⟨vs, rfl, hitems⟩ := hsound.items h
        exact hitems.isValue hbefore
  · next more hspace =>
    rw [hspace]
    split at h
    · cases h
    · next depth =>
      obtain ⟨blank, hblank, hmore⟩ := exists_skipSpace more
      split at h
      · next after hclosed =>
        cases h
        rw [hmore, hclosed]
        have hvalue : (Tree.object []).value? (depth + 1) = some (.object []) := by
          simp [Tree.value?]
        have hvalue' := IsValue.padded rest hbefore (.emptyObject hblank) hvalue
        simpa using hvalue'
      · rw [← members?_append_space hblank, ← hmore] at h
        obtain ⟨vs, rfl, hmembers⟩ := hsound.members h
        exact hmembers.isValue hbefore
  · obtain ⟨⟨number, after⟩, hnumber, heq⟩ := Option.map_eq_some_iff.mp h
    cases heq
    obtain ⟨n, htext, hvalue⟩ := exists_numeral_of_number? hnumber
    rw [htext]
    exact .padded rest hbefore (.number n) (by rw [Tree.value?, hvalue, Option.map_some])

theorem Sound.items_succ (hsound : Sound fuel) {read : List Json}
    (h : items? (fuel + 1) depth read cs = some (v, rest)) :
    ∃ vs, v = .array (read.reverse ++ vs) ∧ AreItems depth cs rest vs := by
  rw [items?] at h
  split at h
  · cases h
  · next w after hvalue =>
    have hitem := (hsound.value hvalue).skipSpace
    split at h
    · next more hcomma =>
      rw [hcomma] at hitem
      obtain ⟨vs, rfl, hitems⟩ := hsound.items h
      exact ⟨w :: vs, by simp, .cons hitem hitems⟩
    · next more hclosed =>
      cases h
      rw [hclosed] at hitem
      exact ⟨[w], by simp, .single hitem⟩
    · cases h

theorem Sound.members_succ (hsound : Sound fuel) {read : List (String × Json)}
    (h : members? (fuel + 1) depth read cs = some (v, rest)) :
    ∃ vs, v = .object (read.reverse ++ vs) ∧ AreMembers depth cs rest vs := by
  obtain ⟨before, hbefore, hcs⟩ := exists_skipSpace cs
  rw [members?] at h
  split at h
  · next inKey hquote =>
    split at h
    · cases h
    · next key afterKey hstring =>
      obtain ⟨pieces, chars, hinKey, hchars, rfl⟩ := exists_pieces_of_string? hstring
      obtain ⟨blank, hblank, hafterKey⟩ := exists_skipSpace afterKey
      split at h
      · next inValue hcolon =>
        split at h
        · cases h
        · next w after hvalue =>
          obtain ⟨text, t, hinValue, ht, hw⟩ := (hsound.value hvalue).skipSpace
          let m : Member := ⟨before, pieces, blank, text, t, hbefore, hblank⟩
          have hm : cs = m.spelling ++ skipSpace after := by
            rw [hcs, hquote, hinKey, hafterKey, hcolon, hinValue]
            simp [m, Member.spelling, quotedText]
          rw [hm]
          split at h
          · next more hcomma =>
            obtain ⟨vs, rfl, hmembers⟩ := hsound.members h
            rw [hcomma]
            exact ⟨(.ofList chars, w) :: vs, by simp, .cons hchars ht hw hmembers⟩
          · next more hclosed =>
            cases h
            rw [hclosed]
            exact ⟨[(.ofList chars, w)], by simp, .single hchars ht hw rest⟩
          · cases h
      · cases h
  · cases h

theorem sound (fuel : Nat) : Sound fuel := by
  induction fuel with
  | zero => exact ⟨nofun, nofun, nofun⟩
  | succ fuel ih => exact ⟨ih.value_succ, ih.items_succ, ih.members_succ⟩

end Values

end ModuleCatalog.Json.Reader

namespace ModuleCatalog.Json

/-- The reader takes the texts of the grammar whose trees have a value, and no others. -/
theorem parse?_eq_some_iff {body : String} {v : Json} :
    parse? body = some v ↔ ∃ t, Derives body.toList t ∧ t.value? Reader.maxDepth = some v := by
  constructor
  · intro h
    rw [parse?] at h
    split at h
    · next w rest hvalue =>
      obtain ⟨text, t, hbody, ht, hw⟩ := (Reader.sound _).value hvalue
      split at h
      · next hrest =>
        cases h
        obtain ⟨blank, hblank, hall⟩ := Reader.exists_skipSpace rest
        rw [List.isEmpty_iff.mp hrest, List.append_nil] at hall
        refine ⟨t, ?_, hw⟩
        rw [hbody, hall]
        exact .padded isSpace_nil hblank ht
      · cases h
    · cases h
  · rintro ⟨t, ht, hvalue⟩
    rw [parse?_of_derives ht, hvalue]

end ModuleCatalog.Json
