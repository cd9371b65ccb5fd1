import ModuleCatalog.Proofs.Yaml.WrittenText

/-!
Reading back what is written in quotes.

Double quotes hide every character that is not printable, and every line break. Single quotes hide
nothing but themselves, so there the reader folds the lines that separators break; it gives back the
text because only a line feed is lost in folding and no space stands beside a break.
-/
namespace ModuleCatalog.Yaml

section HexDigits

theorem hexNumber?_hexDigits (k n value : Nat) (cs : List Char) :
    hexNumber? k value (hexDigits k n ++ cs) = some (value * 16 ^ k + n % 16 ^ k) := by
  induction k generalizing value with
  | zero => simp [hexNumber?, Nat.mod_one]
  | succ k ih =>
    have hdigit : n / 16 ^ k % 16 < 16 := Nat.mod_lt _ (by decide)
    simp only [hexDigits_succ, List.cons_append, hexNumber?, Text.hexValue?_capitalHexDigit _ hdigit]
    rw [ih,
      Nat.mod_pow_succ, Nat.pow_succ, Nat.add_mul]
    congr 1
    ring

theorem codePoint?_hexDigits {k : Nat} {c : Char} (h : c.toNat < 16 ^ k) (cs : List Char) :
    codePoint? k (hexDigits k c.toNat ++ cs) = some c := by
  have hvalid : c.toNat < 0xD800 ∨ 0xDFFF < c.toNat ∧ c.toNat < 0x110000 := c.valid
  simp only [codePoint?, hexNumber?_hexDigits, Nat.zero_mul, Nat.zero_add, Nat.mod_eq_of_lt h,
    Char.ofNat_toNat]
  rw [if_neg]
  simp only [Bool.or_eq_true, Bool.and_eq_true, decide_eq_true_eq]
  omega

end HexDigits

section Steps

variable {single : Bool} {place : Place} {gap : Gap} {read : List Char} {c : Char}

theorem quotedScalar_blank (h : isBlank c = true) (cs : List Char) :
    quotedScalar single place gap read 0 (c :: cs) =
      quotedScalar single (place.past c) (gap.addBlank c) read 0 cs := by
  simp [quotedScalar, h]

theorem quotedScalar_break (hblank : isBlank c = false) (h : isBreak c = true) (cs : List Char) :
    quotedScalar single place gap read 0 (c :: cs) =
      quotedScalar single (place.past c) (gap.addBreak c) read 0 cs := by
  simp [quotedScalar, hblank, h]

theorem quotedScalar_passed (xs cs : List Char) :
    quotedScalar single place gap read xs.length (xs ++ cs) =
      quotedScalar single (xs.foldl .past place) gap read 0 cs := by
  induction xs generalizing place with
  | nil => rfl
  | cons x xs ih => exact ih

/-- A character without a meaning of its own joins the scalar as it is. -/
theorem quotedScalar_ordinary (hplace : place.column ≠ 0) (hblank : isBlank c = false)
    (hbreak : isBreak c = false) (hquote : c ≠ if single then '\'' else '"')
    (hescape : single = false → c ≠ '\\') (cs : List Char) :
    quotedScalar single place gap read 0 (c :: cs) =
      quotedScalar single (place.past c) .none (gap.appendTo read [c]) 0 cs := by
  cases single <;> simp_all [quotedScalar]

theorem quotedScalar_escape {letter : Char} {xs : List Char} (hplace : place.column ≠ 0)
    (hletter : isBreak letter = false) (cs : List Char)
    (h : escape? (letter :: xs ++ cs) = some (c, xs.length + 1)) :
    quotedScalar false place gap read 0 ('\\' :: letter :: xs ++ cs) =
      quotedScalar false (('\\' :: letter :: xs).foldl .past place) .none (gap.appendTo read [c]) 0
        cs := by
  rw [List.foldl_cons, ← quotedScalar_passed (letter :: xs) cs]
  have hblank : isBlank '\\' = false := rfl
  have hbreak : isBreak '\\' = false := rfl
  simp only [List.cons_append] at h ⊢
  rw [quotedScalar]
  simp [hplace, hletter, h, hblank, hbreak]

theorem quotedScalar_twoQuotes (hplace : place.column ≠ 0) (cs : List Char) :
    quotedScalar true place gap read 0 ('\'' :: '\'' :: cs) =
      quotedScalar true ((place.past '\'').past '\'') .none (gap.appendTo read ['\'']) 0 cs := by
  simp [quotedScalar, hplace, isBlank, isBreak]

theorem quotedScalar_close (hplace : place.column ≠ 0) (cs : List Char)
    (hrest : single = true → cs.head? ≠ some '\'') :
    quotedScalar single place gap read 0 ((if single then '\'' else '"') :: cs) =
      some ⟨(gap.appendTo read []).reverse, false,
        ⟨cs, place.past (if single then '\'' else '"')⟩⟩ := by
  cases single <;> simp_all [quotedScalar, isBlank, isBreak]

end Steps

section DoubleQuotes

theorem shortEscape?_of_escapeLetter? {c letter : Char} (h : escapeLetter? c = some letter) :
    shortEscape? letter = some c ∧ isBreak letter = false := by
  unfold escapeLetter? at h
  split at h <;> cases h <;> exact ⟨rfl, rfl⟩

theorem escapeLetter?_of_isBreak {c : Char} (h : isBreak c = true) : (escapeLetter? c).isSome := by
  simp only [isBreak, Bool.or_eq_true, beq_iff_eq] at h
  rcases h with (rfl | rfl) | rfl <;> rfl

/-- A character in double quotes stands for itself or is spelled by an escape. -/
theorem doubleQuotedChar_cases (c : Char) :
    (doubleQuotedChar c = [c] ∧ isPrintable c = true ∧ escapeLetter? c = none) ∨
    ∃ letter xs, doubleQuotedChar c = '\\' :: letter :: xs ∧
      (∀ x ∈ letter :: xs, isBreak x = false) ∧
      ∀ cs, escape? (letter :: xs ++ cs) = some (c, xs.length + 1) := by
  have hhex (letter : Char) (k : Nat) (hletter : isBreak letter = false)
      (hshort : shortEscape? letter = none) (hdigits : escapeDigits? letter = some k)
      (h : c.toNat < 16 ^ k) :
      ∃ letter' xs, '\\' :: letter :: hexDigits k c.toNat = '\\' :: letter' :: xs ∧
        (∀ x ∈ letter' :: xs, isBreak x = false) ∧
        ∀ cs, escape? (letter' :: xs ++ cs) = some (c, xs.length + 1) := by
    refine ⟨letter, hexDigits k c.toNat, rfl, fun x hx => ?_, fun cs => ?_⟩
    · rcases List.mem_cons.mp hx with rfl | hx
      · exact hletter
      · obtain ⟨d, hd, rfl⟩ := mem_hexDigits hx
        exact (hexDigit_inLine d hd).2
    · simp [escape?, hshort, hdigits, codePoint?_hexDigits h, length_hexDigits]
  have hvalid : c.toNat < 0xD800 ∨ 0xDFFF < c.toNat ∧ c.toNat < 0x110000 := c.valid
  unfold doubleQuotedChar
  split
  · next letter hletter =>
    obtain ⟨hshort, hbreak⟩ := shortEscape?_of_escapeLetter? hletter
    exact .inr ⟨letter, [], rfl, by simpa using hbreak, fun cs => by simp [escape?, hshort]⟩
  next hletter =>
  split
  · next hprintable => exact .inl ⟨rfl, hprintable, hletter⟩
  split
  · exact .inr (hhex 'x' 2 rfl rfl rfl (by omega))
  split
  · exact .inr (hhex 'u' 4 rfl rfl rfl (by omega))
  · exact .inr (hhex 'U' 8 rfl rfl rfl (by omega))

theorem quotedScalar_doubleQuotedChar {place : Place} (c : Char) (hplace : place.column ≠ 0)
    (blanks read cs : List Char) :
    ∃ place' blanks' read', place'.column ≠ 0 ∧ place.line ≤ place'.line ∧
      read'.reverse ++ blanks'.reverse = read.reverse ++ blanks.reverse ++ [c] ∧
      quotedScalar false place ⟨blanks, [], false⟩ read 0 (doubleQuotedChar c ++ cs) =
        quotedScalar false place' ⟨blanks', [], false⟩ read' 0 cs := by
  rcases doubleQuotedChar_cases c with ⟨htext, hprintable, hletter⟩ | ⟨letter, xs, htext, hxs, h⟩
  · rw [htext, List.singleton_append]
    have hbreak : isBreak c = false := by
      by_contra hbreak
      have hsome := escapeLetter?_of_isBreak (Bool.of_not_eq_false hbreak)
      simp [hletter] at hsome
    by_cases hblank : isBlank c = true
    · refine ⟨place.past c, c :: blanks, read, place.past_column_ne_zero hbreak,
        place.line_le_past c, by simp, ?_⟩
      exact quotedScalar_blank hblank cs
    · refine ⟨place.past c, [], Gap.appendTo ⟨blanks, [], false⟩ read [c],
        place.past_column_ne_zero hbreak, place.line_le_past c, by simp [Gap.appendTo, Gap.folded],
        ?_⟩
      apply quotedScalar_ordinary hplace (Bool.eq_false_iff.mpr hblank) hbreak
      · rintro rfl
        cases hletter
      · rintro - rfl
        cases hletter
  · rw [htext]
    refine ⟨_, [], _, ?_, place.line_le_foldl_past _, ?_,
      quotedScalar_escape hplace (hxs letter List.mem_cons_self) cs (h cs)⟩
    · rw [place.column_foldl_past]
      · simp
      · intro x hx
        rcases List.mem_cons.mp hx with rfl | hx
        · rfl
        · exact hxs x hx
    · simp [Gap.appendTo, Gap.folded]

theorem quotedScalar_double (text : List Char) {place : Place} (hplace : place.column ≠ 0)
    (blanks read cs : List Char) :
    ∃ place', place.line ≤ place'.line ∧
      quotedScalar false place ⟨blanks, [], false⟩ read 0
          (text.flatMap doubleQuotedChar ++ '"' :: cs) =
        some ⟨read.reverse ++ blanks.reverse ++ text, false, ⟨cs, place'⟩⟩ := by
  induction text generalizing place blanks read with
  | nil =>
    refine ⟨place.past '"', place.line_le_past '"', ?_⟩
    have hclose : quotedScalar false place ⟨blanks, [], false⟩ read 0 ('"' :: cs) =
        some ⟨(Gap.appendTo ⟨blanks, [], false⟩ read []).reverse, false, ⟨cs, place.past '"'⟩⟩ :=
      quotedScalar_close hplace cs (by simp)
    rw [List.flatMap_nil, List.nil_append, hclose]
    simp [Gap.appendTo, Gap.folded]
  | cons c text ih =>
    obtain ⟨place₁, blanks₁, read₁, hplace₁, hline₁, hread₁, hstep⟩ :=
      quotedScalar_doubleQuotedChar c hplace blanks read (text.flatMap doubleQuotedChar ++ '"' :: cs)
    obtain ⟨place₂, hline₂, hrun⟩ := ih hplace₁ blanks₁ read₁
    refine ⟨place₂, Nat.le_trans hline₁ hline₂, ?_⟩
    rw [List.flatMap_cons, List.append_assoc, hstep, hrun, hread₁]
    simp

end DoubleQuotes

section SingleQuotes

/-- A gap whose folding loses nothing: it consists of spaces or of breaks, and no break of it is a
line feed. -/
structure Gap.Kept (g : Gap) : Prop where
  joined : g.joined = false
  spaces : ∀ c ∈ g.blanks, c = ' '
  separators : ∀ c ∈ g.breaks, isBreak c = true ∧ c ≠ '\n'
  uniform : g.breaks = [] ∨ g.blanks = []

namespace Gap

variable {g : Gap} {c : Char} {cs : List Char}

theorem kept_none : Kept .none :=
  ⟨rfl, by simp [none], by simp [none], .inl rfl⟩

@[simp] theorem crossesLine_none : Gap.none.crossesLine = false := rfl

theorem Kept.folded_eq (h : g.Kept) : g.folded = g.breaks.reverse ++ g.blanks.reverse := by
  rw [folded, h.joined]
  rcases h.uniform with hbreaks | hblanks
  · simp [hbreaks]
  · have hseparators : ∀ c ∈ g.breaks.reverse, c ≠ '\n' := fun c hc =>
      (h.separators c (List.mem_reverse.mp hc)).2
    rw [hblanks]
    cases hreverse : g.breaks.reverse with
    | nil => rfl
    | cons b breaks =>
      have hb : b ≠ '\n' := hseparators b (by simp [hreverse])
      simp [hb]

theorem Kept.crossesLine_eq (h : g.Kept) : g.crossesLine = !g.breaks.isEmpty := by
  rw [crossesLine, h.joined, Bool.or_false]

theorem Kept.breaks_eq_nil (h : g.Kept) (hchain : (g.folded ++ ' ' :: cs).IsChain Unpadded) :
    g.breaks = [] := by
  cases hbreaks : g.breaks with
  | nil => rfl
  | cons b breaks =>
    have hblanks : g.blanks = [] := h.uniform.resolve_left (by simp [hbreaks])
    have hlast : b ∈ g.folded.getLast? := by simp [h.folded_eq, hblanks, hbreaks]
    have hpair := (List.isChain_append.mp hchain).2.2 b hlast ' ' rfl
    exact absurd ⟨(h.separators b (by simp [hbreaks])).1, rfl⟩ hpair.2

theorem Kept.blanks_eq_nil (h : g.Kept) (hc : isBreak c = true)
    (hchain : (g.folded ++ c :: cs).IsChain Unpadded) : g.blanks = [] := by
  cases hblanks : g.blanks with
  | nil => rfl
  | cons b blanks =>
    have hbreaks : g.breaks = [] := h.uniform.resolve_right (by simp [hblanks])
    have hlast : b ∈ g.folded.getLast? := by simp [h.folded_eq, hblanks, hbreaks]
    have hpair := (List.isChain_append.mp hchain).2.2 b hlast c rfl
    exact absurd ⟨h.spaces b (by simp [hblanks]), hc⟩ hpair.1

theorem Kept.addBlank (h : g.Kept) (hchain : (g.folded ++ ' ' :: cs).IsChain Unpadded) :
    (g.addBlank ' ').Kept ∧ (g.addBlank ' ').folded = g.folded ++ [' '] ∧
      (g.addBlank ' ').crossesLine = false := by
  have hbreaks := h.breaks_eq_nil hchain
  have hcrosses : g.crossesLine = false := by simp [h.crossesLine_eq, hbreaks]
  have hkept : (g.addBlank ' ').Kept := by
    rw [Gap.addBlank, if_neg (by simp [hcrosses])]
    refine ⟨h.joined, fun c hc => ?_, h.separators, .inl hbreaks⟩
    exact (List.mem_cons.mp hc).elim id (h.spaces c)
  refine ⟨hkept, ?_, ?_⟩
  · rw [hkept.folded_eq, h.folded_eq]
    simp [Gap.addBlank, hcrosses]
  · rw [hkept.crossesLine_eq]
    simp [Gap.addBlank, hcrosses, hbreaks]

theorem Kept.addBreak (h : g.Kept) (hc : isBreak c = true) (hne : c ≠ '\n')
    (hchain : (g.folded ++ c :: cs).IsChain Unpadded) :
    (g.addBreak c).Kept ∧ (g.addBreak c).folded = g.folded ++ [c] ∧
      (g.addBreak c).crossesLine = true := by
  have hblanks := h.blanks_eq_nil hc hchain
  have hkept : (g.addBreak c).Kept := by
    refine ⟨h.joined, by simp [Gap.addBreak], fun d hd => ?_, .inr rfl⟩
    rcases List.mem_cons.mp hd with rfl | hd
    · exact ⟨hc, hne⟩
    · exact h.separators d hd
  refine ⟨hkept, ?_, by simp [crossesLine, Gap.addBreak]⟩
  rw [hkept.folded_eq, h.folded_eq]
  simp [Gap.addBreak, hblanks]

end Gap

/-- The indentation of a line does not count, and after it the reader is inside the line. -/
theorem quotedScalar_indent {place : Place} {gap : Gap}
    (hplace : gap.crossesLine = false → place.column ≠ 0) (read cs : List Char) :
    ∃ place', place'.column ≠ 0 ∧ place.line ≤ place'.line ∧
      quotedScalar true place gap read 0 ((if gap.crossesLine then scalarIndent else []) ++ cs) =
        quotedScalar true place' gap read 0 cs := by
  cases hcrosses : gap.crossesLine with
  | false => exact ⟨place, hplace hcrosses, Nat.le_refl _, rfl⟩
  | true =>
    have hsame : gap.addBlank ' ' = gap := if_pos hcrosses
    refine ⟨(place.past ' ').past ' ', Place.past_column_ne_zero _ rfl,
      place.line_le_foldl_past [' ', ' '], ?_⟩
    rw [if_pos rfl, scalarIndent, List.cons_append, quotedScalar_blank rfl, hsame, List.cons_append,
      quotedScalar_blank rfl, hsame, List.nil_append]

theorem singleQuotedText_cons_of_not_break {c : Char} (h : isBreak c = false) (afterBreak : Bool)
    (cs : List Char) :
    singleQuotedText afterBreak (c :: cs) =
      (if afterBreak then scalarIndent else []) ++
        ((if c = '\'' then ['\'', '\''] else [c]) ++ singleQuotedText false cs) := by
  rw [singleQuotedText, h]
  cases afterBreak <;> simp

/-- The reader stands before the rest of a text in single quotes. No space meets a break in the gap
and the rest together, so that the gap stays one that is kept. -/
structure BeforeRest (place : Place) (gap : Gap) (text : List Char) : Prop where
  inLine : gap.crossesLine = false → place.column ≠ 0
  kept : gap.Kept
  printable : ∀ c ∈ text, isPrintable c = true
  unfolded : '\n' ∉ text
  unpadded : (gap.folded ++ text).IsChain Unpadded

theorem BeforeRest.next {place place' : Place} {gap gap' : Gap} {c : Char} {text : List Char}
    (h : BeforeRest place gap (c :: text)) (hplace : gap'.crossesLine = false → place'.column ≠ 0)
    (hkept : gap'.Kept) (hfolded : gap'.folded <:+ gap.folded ++ [c]) :
    BeforeRest place' gap' text := by
  refine ⟨hplace, hkept, fun d hd => h.printable d (List.mem_cons_of_mem _ hd),
    fun hd => h.unfolded (List.mem_cons_of_mem _ hd), ?_⟩
  obtain ⟨before, hbefore⟩ := hfolded
  have hchain : (before ++ (gap'.folded ++ text)).IsChain Unpadded := by
    rw [← List.append_assoc, hbefore, List.append_assoc]
    exact h.unpadded
  exact hchain.right_of_append

/-- A character that is no space and no break, a quote written twice, ends the gap before it. -/
theorem quotedScalar_sign {place : Place} {gap : Gap} {read : List Char} {c : Char}
    (hplace : place.column ≠ 0) (hblank : isBlank c = false) (hbreak : isBreak c = false)
    (cs : List Char) :
    ∃ place', place'.column ≠ 0 ∧ place.line ≤ place'.line ∧
      quotedScalar true place gap read 0 ((if c = '\'' then ['\'', '\''] else [c]) ++ cs) =
        quotedScalar true place' .none (gap.appendTo read [c]) 0 cs := by
  by_cases hquote : c = '\''
  · subst hquote
    exact ⟨(place.past '\'').past '\'', Place.past_column_ne_zero _ rfl,
      place.line_le_foldl_past ['\'', '\''], quotedScalar_twoQuotes hplace cs⟩
  · refine ⟨place.past c, place.past_column_ne_zero hbreak, place.line_le_past c, ?_⟩
    rw [if_neg hquote]
    apply quotedScalar_ordinary hplace hblank hbreak
    · exact hquote
    · simp

theorem quotedScalar_singleQuotedChar {place : Place} {gap : Gap} {c : Char} {text : List Char}
    (h : BeforeRest place gap (c :: text)) (read cs : List Char) :
    ∃ place' gap' read', BeforeRest place' gap' text ∧ place.line ≤ place'.line ∧
      read'.reverse ++ gap'.folded = read.reverse ++ gap.folded ++ [c] ∧
      quotedScalar true place gap read 0 (singleQuotedText gap.crossesLine (c :: text) ++ cs) =
        quotedScalar true place' gap' read' 0 (singleQuotedText gap'.crossesLine text ++ cs) := by
  -- A break and a space go into the gap and stay there until the next sign.
  by_cases hbreak : isBreak c = true
  · have hne : c ≠ '\n' := fun hc => h.unfolded (hc ▸ List.mem_cons_self)
    have hblank : isBlank c = false := isBlank_eq_false_of_isBreak hbreak
    obtain ⟨hkept, hfolded, hcrosses⟩ := h.kept.addBreak hbreak hne h.unpadded
    refine ⟨place.past c, gap.addBreak c, read,
      h.next (by simp [hcrosses]) hkept (by simp [hfolded]), place.line_le_past c,
      by simp [hfolded], ?_⟩
    rw [singleQuotedText, if_pos hbreak, List.cons_append, quotedScalar_break hblank hbreak,
      hcrosses]
  have hbreak : isBreak c = false := Bool.eq_false_iff.mpr hbreak
  by_cases hspace : c = ' '
  · subst hspace
    obtain ⟨hkept, hfolded, hcrosses⟩ := h.kept.addBlank h.unpadded
    have hbefore : gap.crossesLine = false := by
      rw [h.kept.crossesLine_eq, h.kept.breaks_eq_nil h.unpadded]
      rfl
    refine ⟨place.past ' ', gap.addBlank ' ', read,
      h.next (fun _ => place.past_column_ne_zero hbreak) hkept (by simp [hfolded]),
      place.line_le_past ' ', by simp [hfolded], ?_⟩
    rw [hbefore, hcrosses, singleQuotedText_cons_of_not_break hbreak]
    exact quotedScalar_blank rfl _
  have hblank : isBlank c = false := by
    rw [isBlank_of_isPrintable (h.printable c List.mem_cons_self)]
    simpa using hspace
  obtain ⟨place₁, hplace₁, hline₁, hindent⟩ := quotedScalar_indent h.inLine read
    ((if c = '\'' then ['\'', '\''] else [c]) ++ (singleQuotedText false text ++ cs))
  obtain ⟨place₂, hplace₂, hline₂, hsign⟩ :=
    quotedScalar_sign hplace₁ hblank hbreak (singleQuotedText false text ++ cs)
  refine ⟨place₂, .none, gap.appendTo read [c],
    h.next (fun _ => hplace₂) Gap.kept_none List.nil_suffix, Nat.le_trans hline₁ hline₂,
    by simp [Gap.appendTo, Gap.none, Gap.folded], ?_⟩
  rw [singleQuotedText_cons_of_not_break hbreak, List.append_assoc, List.append_assoc, hindent,
    hsign, Gap.crossesLine_none]

theorem quotedScalar_single (text : List Char) {place : Place} {gap : Gap}
    (h : BeforeRest place gap text) (read : List Char) {cs : List Char}
    (hcs : cs.head? ≠ some '\'') :
    ∃ place', place.line ≤ place'.line ∧
      quotedScalar true place gap read 0 (singleQuotedText gap.crossesLine text ++ '\'' :: cs) =
        some ⟨read.reverse ++ gap.folded ++ text, false, ⟨cs, place'⟩⟩ := by
  induction text generalizing place gap read with
  | nil =>
    obtain ⟨place₁, hplace₁, hline₁, hindent⟩ := quotedScalar_indent h.inLine read ('\'' :: cs)
    refine ⟨place₁.past '\'', Nat.le_trans hline₁ (place₁.line_le_past '\''), ?_⟩
    have hclose : quotedScalar true place₁ gap read 0 ('\'' :: cs) =
        some ⟨(gap.appendTo read []).reverse, false, ⟨cs, place₁.past '\''⟩⟩ :=
      quotedScalar_close hplace₁ cs fun _ => hcs
    rw [singleQuotedText, hindent, hclose]
    simp [Gap.appendTo]
  | cons c text ih =>
    obtain ⟨place₁, gap₁, read₁, h₁, hline₁, hread₁, hstep⟩ :=
      quotedScalar_singleQuotedChar h read ('\'' :: cs)
    obtain ⟨place₂, hline₂, hrun⟩ := ih h₁ read₁
    refine ⟨place₂, Nat.le_trans hline₁ hline₂, ?_⟩
    rw [hstep, hrun, hread₁]
    simp

end SingleQuotes

end ModuleCatalog.Yaml
