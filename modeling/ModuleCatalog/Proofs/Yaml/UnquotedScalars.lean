import ModuleCatalog.Proofs.Yaml.WrittenText
import ModuleCatalog.Yaml.Block

/-!
Reading back what is written without quotes: plain texts, which end with their line, and literal
blocks, which end where a line begins at the margin.
-/
namespace ModuleCatalog.Yaml

section Plain

variable {place : Place} {gap : Gap} {read : List Char} {indent : Int} {c : Char}

theorem plainScalar_blank (hcrosses : gap.crossesLine = false) (h : isBlank c = true)
    (cs : List Char) :
    plainScalar false indent place gap read (c :: cs) =
      plainScalar false indent (place.past c) (gap.addBlank c) read cs := by
  simp [plainScalar, h, hcrosses]

theorem plainScalar_ordinary (hblank : isBlank c = false) (hbreak : isBreak c = false)
    {cs : List Char} (hends : plainEnds false indent place.column gap c cs = false) :
    plainScalar false indent place gap read (c :: cs) =
      plainScalar false indent (place.past c) .none (gap.appendTo read [c]) cs := by
  simp [plainScalar, hblank, hbreak, hends, strayColon]

theorem plainScalar_lineEnd (hindent : 0 < indent) {d : Char} (hblank : isBlank d = false)
    (hbreak : isBreak d = false) (tail : List Char) :
    plainScalar false indent place .none read ('\n' :: d :: tail) =
      some ⟨read.reverse, true, ⟨d :: tail, ⟨place.line + 1, 0, 0⟩⟩⟩ := by
  have hblank' : isBlank '\n' = false := rfl
  have hbreak' : isBreak '\n' = true := rfl
  have hends : plainEnds false indent 0 (Gap.none.addBreak '\n') d tail = true := by
    simp [plainEnds, Gap.none, Gap.addBreak, Gap.isEmpty, hindent]
  simp [plainScalar, hblank, hbreak, hblank', hbreak', hends]
  rfl

theorem beforeSpace_of_atSpace {cs : List Char} {d : Char} {tail : List Char}
    (h : atSpace (cs ++ d :: tail) = true) : beforeSpace cs = true := by
  cases cs with
  | nil => rfl
  | cons c cs =>
    simp only [List.cons_append, atSpace, Bool.or_eq_true] at h
    simp only [beforeSpace, Bool.or_eq_true]
    exact h.imp_right breaksLine_of_isBreak

/-- What the reader of a plain text has before it: the rest of the text, after the character that it
read last and the spaces that it holds back. -/
structure PlainRest (before : Char) (blanks text : List Char) : Prop where
  printable : ∀ c ∈ text, isPrintable c = true
  unbroken : ∀ c ∈ text, isBreak c = false
  blanks : blanks ≠ [] → before = ' '
  holds : holdsIndicator before text = false
  ends : ∀ c ∈ (before :: text).getLast?, c ≠ ' '

theorem PlainRest.next {before c : Char} {blanks blanks' text : List Char}
    (h : PlainRest before blanks (c :: text)) (hblanks : blanks' ≠ [] → c = ' ') :
    PlainRest c blanks' text := by
  have hholds := h.holds
  rw [holdsIndicator, Bool.or_eq_false_iff] at hholds
  exact ⟨fun d hd => h.printable d (List.mem_cons_of_mem _ hd),
    fun d hd => h.unbroken d (List.mem_cons_of_mem _ hd), hblanks, hholds.2,
    by simpa [List.getLast?_cons_cons] using h.ends⟩

theorem PlainRest.blanks_eq_nil {before : Char} {blanks : List Char}
    (h : PlainRest before blanks []) : blanks = [] := by
  by_contra hne
  exact h.ends before rfl (h.blanks hne)

/-- Inside its line a plain text goes on: no colon before a space and no hash after a space stands
there. -/
theorem PlainRest.plainEnds_eq_false {before c : Char} {blanks text : List Char}
    (h : PlainRest before blanks (c :: text)) {column : Nat} (hindent : 0 < indent)
    (hcolumn : indent ≤ column) (tail : List Char) :
    plainEnds false indent column ⟨blanks, [], false⟩ c (text ++ '\n' :: tail) = false := by
  have hholds := h.holds
  simp only [holdsIndicator, Bool.or_eq_false_iff, Bool.and_eq_false_iff] at hholds
  obtain ⟨⟨hcolon, hhash⟩, -⟩ := hholds
  have hcolon : (c == ':' && atSpace (text ++ '\n' :: tail)) = false := by
    by_contra hboth
    simp only [Bool.not_eq_false, Bool.and_eq_true] at hboth
    simp [hboth.1, beforeSpace_of_atSpace hboth.2] at hcolon
  have hplace : column ≠ 0 := by omega
  rw [plainEnds, hcolon]
  by_cases hempty : blanks = []
  · simp [hempty, Gap.isEmpty]
  · rw [h.blanks hempty] at hhash
    have hhash : (c == '#') = false := hhash.resolve_right (by decide)
    simp [hhash, hplace, hcolumn]

theorem plainScalar_char {before : Char} {blanks text : List Char}
    (h : PlainRest before blanks (c :: text)) (hindent : 0 < indent)
    (hcolumn : indent ≤ place.column) (read tail : List Char) :
    ∃ blanks' read', PlainRest c blanks' text ∧
      read'.reverse ++ blanks'.reverse = read.reverse ++ blanks.reverse ++ [c] ∧
      plainScalar false indent place ⟨blanks, [], false⟩ read (c :: text ++ '\n' :: tail) =
        plainScalar false indent (place.past c) ⟨blanks', [], false⟩ read'
          (text ++ '\n' :: tail) := by
  by_cases hspace : c = ' '
  · exact ⟨c :: blanks, read, h.next fun _ => hspace, by simp,
      plainScalar_blank rfl (by simp [hspace, isBlank]) _⟩
  · refine ⟨[], Gap.appendTo ⟨blanks, [], false⟩ read [c], h.next (by simp),
      by simp [Gap.appendTo, Gap.folded], ?_⟩
    refine plainScalar_ordinary ?_ (h.unbroken c List.mem_cons_self)
      (h.plainEnds_eq_false hindent hcolumn tail)
    rw [isBlank_of_isPrintable (h.printable c List.mem_cons_self)]
    simpa using hspace

theorem plainScalar_line {before : Char} {blanks text : List Char}
    (h : PlainRest before blanks text) (hindent : 0 < indent) (hcolumn : indent ≤ place.column)
    (read : List Char) {d : Char} (hblank : isBlank d = false) (hbreak : isBreak d = false)
    (tail : List Char) :
    plainScalar false indent place ⟨blanks, [], false⟩ read (text ++ '\n' :: d :: tail) =
      some ⟨read.reverse ++ blanks.reverse ++ text, true, ⟨d :: tail, ⟨place.line + 1, 0, 0⟩⟩⟩ := by
  induction text generalizing before place blanks read with
  | nil =>
    obtain rfl := h.blanks_eq_nil
    rw [List.nil_append, List.append_nil, List.reverse_nil, List.append_nil]
    exact plainScalar_lineEnd hindent hblank hbreak tail
  | cons c text ih =>
    obtain ⟨blanks₁, read₁, h₁, hread₁, hstep⟩ :=
      plainScalar_char h hindent hcolumn read (d :: tail)
    have hpast := place.past_inLine (h.unbroken c List.mem_cons_self)
    have hcolumn₁ : indent ≤ (place.past c).column := by
      rw [hpast]
      push_cast
      omega
    rw [hstep, ih h₁ hcolumn₁, hread₁, hpast]
    simp

theorem signs_of_beginsWithIndicator_eq_false {cs : List Char}
    (h : beginsWithIndicator (c :: cs) = false) :
    "#,[]\x7b\x7d&*!|>'\"%@\x60".toList.contains c = false ∧
      ("?:-".toList.contains c = false ∨ beforeSpace cs = false) := by
  unfold beginsWithIndicator at h
  split at h
  · cases h
  · cases h
  · next heq =>
    obtain ⟨rfl, rfl⟩ := List.cons.inj heq
    simpa only [Bool.or_eq_false_iff, Bool.and_eq_false_iff] using h
  · next heq => cases heq

/-- Before the text stands a dash with a space; any character that is no space will do for it, since
nothing of the text itself has been read. -/
theorem AllowsPlain.plainRest {text : List Char} (h : AllowsPlain text) :
    PlainRest 'a' [] text := by
  refine ⟨h.printable, h.unbroken, by simp, ?_, ?_⟩
  · cases text with
    | nil => rfl
    | cons c rest =>
      have hsigns := (signs_of_beginsWithIndicator_eq_false h.begins).2
      have hcolon : (c == ':' && beforeSpace rest) = false := by
        by_contra hboth
        simp only [Bool.not_eq_false, Bool.and_eq_true, beq_iff_eq] at hboth
        simp [hboth.1, hboth.2] at hsigns
      have hhash : (c == '#' && beforeSpace ['a']) = false := by
        rw [show beforeSpace ['a'] = false from rfl, Bool.and_false]
      rw [holdsIndicator, hcolon, hhash, h.holds c rest rfl]
      rfl
  · rw [List.getLast?_cons]
    intro c hc
    obtain rfl := Option.some.inj hc
    have hlast := List.getLast?_eq_some_getLast h.nonempty
    rw [hlast]
    exact h.ends _ hlast

end Plain

section Literal

/-- What has been read of a block, with the breaks before the line that begins. -/
def BlockState.soFar (s : BlockState) : List Char :=
  (s.emptyBreaks ++ (s.lastBreak ++ s.read)).reverse

variable {h : BlockHeader} {place : Place} {s : BlockState} {c : Char}

theorem blockLines_indent (hmargin : place.column = 0) (hindent : s.indent = 2 ∨ s.indent = 0)
    (cs : List Char) :
    blockLines h 0 false place s (scalarIndent ++ cs) =
      blockLines h 0 false ((place.past ' ').past ' ') s cs := by
  have hcolumn : (place.past ' ').column = 1 := by
    simp [Place.past_inLine, isBreak, hmargin]
  rcases hindent with hindent | hindent <;>
    simp [scalarIndent, blockLines, hmargin, hcolumn, hindent]

/-- The first line that is not empty settles the indentation. -/
theorem blockLines_firstInLine (hliteral : h.literal = true) (hcolumn : place.column = 2)
    (hindent : s.indent = 2 ∨ s.indent = 0 ∧ s.widest = 0 ∧ isBlank c = false)
    (hbreak : isBreak c = false) (cs : List Char) :
    blockLines h 0 false place s (c :: cs) =
      blockLines h 0 true (place.past c)
        ⟨2, max s.widest 2, [], [], isBlank c, c :: (s.emptyBreaks ++ s.lastBreak ++ s.read)⟩
        cs := by
  rcases hindent with hindent | ⟨hindent, hwidest, hblank⟩
  · simp [blockLines, hcolumn, hindent, hbreak, BlockState.settle, BlockState.startLine, hliteral]
  · obtain ⟨hspace, htab⟩ := isBlank_eq_false_iff.mp hblank
    simp [blockLines, hcolumn, hindent, hwidest, hbreak, hspace, htab, BlockState.settle,
      BlockState.startLine, hliteral]

theorem blockLines_emptyLine (hmargin : place.column = 0) (hindent : s.indent = 2)
    (hbreak : isBreak c = true) (cs : List Char) :
    blockLines h 0 false place s (c :: cs) =
      blockLines h 0 false (place.past c) { s with emptyBreaks := c :: s.emptyBreaks } cs := by
  obtain ⟨hspace, htab⟩ := isBlank_eq_false_iff.mp (isBlank_eq_false_of_isBreak hbreak)
  simp [blockLines, hmargin, hindent, hspace, htab, hbreak]

theorem blockLines_margin (hmargin : place.column = 0) (hindent : s.indent = 2)
    (hblank : isBlank c = false) (hbreak : isBreak c = false) (cs : List Char) :
    blockLines h 0 false place s (c :: cs) = some ⟨s.finish h.chomp, false, ⟨c :: cs, place⟩⟩ := by
  obtain ⟨hspace, htab⟩ := isBlank_eq_false_iff.mp hblank
  simp [blockLines, hmargin, hindent, hspace, htab, hbreak, BlockState.settle, BlockState.finish]

theorem blockLines_inLine (hbreak : isBreak c = false) (cs : List Char) :
    blockLines h 0 true place s (c :: cs) =
      blockLines h 0 true (place.past c) { s with read := c :: s.read } cs := by
  simp [blockLines, hbreak]

theorem blockLines_lineEnd (hbreak : isBreak c = true) (cs : List Char) :
    blockLines h 0 true place s (c :: cs) =
      blockLines h 0 false (place.past c) { s with lastBreak := [c] } cs := by
  simp [blockLines, hbreak]

/-- The reader of a block stands in a line or at the beginning of one, and the text goes on and ends
in a line. -/
structure InBlock (afterBreak : Bool) (place : Place) (s : BlockState) (text : List Char) :
    Prop where
  indent : s.indent = 2
  margin : afterBreak = true → place.column = 0
  inLine : afterBreak = false → s.lastBreak = [] ∧ s.emptyBreaks = []
  more : text = [] → afterBreak = false
  ends : ∀ c ∈ text.getLast?, isBreak c = false

theorem InBlock.ends_tail {afterBreak : Bool} {text : List Char}
    (hs : InBlock afterBreak place s (c :: text)) :
    (isBreak c = true → text ≠ []) ∧ ∀ d ∈ text.getLast?, isBreak d = false := by
  have hends := hs.ends
  cases text with
  | nil => simpa using hends
  | cons d text => simpa [List.getLast?_cons_cons] using hends

theorem blockLines_literalChar {afterBreak : Bool} {text : List Char}
    (hliteral : h.literal = true) (hs : InBlock afterBreak place s (c :: text)) (cs : List Char) :
    ∃ afterBreak' place' s', InBlock afterBreak' place' s' text ∧ place.line ≤ place'.line ∧
      s'.soFar = s.soFar ++ [c] ∧
      blockLines h 0 (!afterBreak) place s (literalText afterBreak (c :: text) ++ cs) =
        blockLines h 0 (!afterBreak') place' s' (literalText afterBreak' text ++ cs) := by
  obtain ⟨hmore, hends⟩ := hs.ends_tail
  rw [literalText]
  -- A break ends a line or is a line of its own, another sign begins a line, indented, or goes on.
  cases hbreak : isBreak c with
  | true =>
    have hcolumn : (place.past c).column = 0 := by simp [hbreak]
    cases afterBreak with
    | true =>
      refine ⟨true, place.past c, { s with emptyBreaks := c :: s.emptyBreaks },
        ⟨hs.indent, fun _ => hcolumn, by simp, fun hnil => absurd hnil (hmore hbreak), hends⟩,
        place.line_le_past c, by simp [BlockState.soFar], ?_⟩
      exact blockLines_emptyLine (hs.margin rfl) hs.indent hbreak _
    | false =>
      obtain ⟨hlast, hempty⟩ := hs.inLine rfl
      refine ⟨true, place.past c, { s with lastBreak := [c] },
        ⟨hs.indent, fun _ => hcolumn, by simp, fun hnil => absurd hnil (hmore hbreak), hends⟩,
        place.line_le_past c, by simp [BlockState.soFar, hlast, hempty], ?_⟩
      exact blockLines_lineEnd hbreak _
  | false =>
    cases afterBreak with
    | true =>
      have hcolumn : ((place.past ' ').past ' ').column = 2 := by
        simp [Place.past_inLine, isBreak, hs.margin rfl]
      refine ⟨false, ((place.past ' ').past ' ').past c,
        ⟨2, max s.widest 2, [], [], isBlank c, c :: (s.emptyBreaks ++ s.lastBreak ++ s.read)⟩,
        ⟨rfl, by simp, fun _ => ⟨rfl, rfl⟩, fun _ => rfl, hends⟩,
        place.line_le_foldl_past [' ', ' ', c], by simp [BlockState.soFar], ?_⟩
      rw [if_neg (by simp), if_pos rfl, List.append_assoc, List.append_assoc, Bool.not_true,
        blockLines_indent (hs.margin rfl) (.inl hs.indent)]
      exact blockLines_firstInLine hliteral hcolumn (.inl hs.indent) hbreak _
    | false =>
      obtain ⟨hlast, hempty⟩ := hs.inLine rfl
      refine ⟨false, place.past c, { s with read := c :: s.read },
        ⟨hs.indent, by simp, fun _ => ⟨hlast, hempty⟩, fun _ => rfl, hends⟩,
        place.line_le_past c, by simp [BlockState.soFar, hlast, hempty], ?_⟩
      exact blockLines_inLine hbreak _

theorem blockLines_literalText {afterBreak : Bool} {text : List Char}
    (hliteral : h.literal = true) (hchomp : h.chomp = .strip) (hs : InBlock afterBreak place s text)
    {d : Char} (hblank : isBlank d = false) (hbreak : isBreak d = false) (tail : List Char) :
    ∃ line, place.line < line ∧
      blockLines h 0 (!afterBreak) place s (literalText afterBreak text ++ '\n' :: d :: tail) =
        some ⟨s.soFar ++ text, false, ⟨d :: tail, ⟨line, 0, 0⟩⟩⟩ := by
  induction text generalizing afterBreak place s with
  | nil =>
    obtain rfl := hs.more rfl
    obtain ⟨hlast, hempty⟩ := hs.inLine rfl
    have hlinefeed : isBreak '\n' = true := rfl
    refine ⟨place.line + 1, Nat.lt_succ_self _, (blockLines_lineEnd hlinefeed _).trans ?_⟩
    rw [place.past_break hlinefeed]
    refine (blockLines_margin rfl ?_ hblank hbreak tail).trans ?_
    · exact hs.indent
    · simp [BlockState.finish, BlockState.soFar, hchomp, hlast, hempty]
  | cons c text ih =>
    obtain ⟨afterBreak₁, place₁, s₁, hs₁, hline₁, hread₁, hstep⟩ :=
      blockLines_literalChar hliteral hs ('\n' :: d :: tail)
    obtain ⟨line, hline, hrun⟩ := ih hs₁
    refine ⟨line, Nat.lt_of_le_of_lt hline₁ hline, ?_⟩
    rw [hstep, hrun, hread₁]
    simp

theorem literalSigns_eq {text : List Char} (htext : Trimmed text) : literalSigns text = ['-'] := by
  have hlast := htext.ends
  have hdigit : (text.head?.any fun c => c == ' ' || isBreak c) = false := by
    cases hc : text.head? with
    | none => rfl
    | some c =>
      obtain ⟨hblank, hbreak⟩ := htext.begins c hc
      simp [(isBlank_eq_false_iff.mp hblank).1, hbreak]
  rw [← List.head?_reverse] at hlast
  rw [literalSigns, hdigit]
  cases hreverse : text.reverse with
  | nil => rfl
  | cons c rest =>
    have hbreak : isBreak c = false := (hlast c (by simp [hreverse])).2
    cases rest <;> simp [hbreak]

theorem endLine?_linefeed (place : Place) (cs : List Char) :
    Cursor.endLine? ⟨'\n' :: cs, place⟩ = some ⟨cs, ⟨place.line + 1, 0, 0⟩⟩ := by
  simp [Cursor.endLine?, Cursor.skipBlanks, Cursor.takeWhile, Cursor.skip, isBlank, isBreak]

theorem blockScalar_strip (place : Place) (cs : List Char) :
    blockScalar true 0 ⟨'-' :: '\n' :: cs, place⟩ =
      blockLines ⟨true, .strip, 0⟩ 0 false ⟨place.line + 1, 0, 0⟩ ⟨0, 0, [], [], false, []⟩ cs := by
  have hsigns : headerSigns? ('-' :: '\n' :: cs) = some (.strip, 0, 1) := rfl
  have hskip : Cursor.skip ⟨'-' :: '\n' :: cs, place⟩ 1 = ⟨'\n' :: cs, place.past '-'⟩ := rfl
  have hline : (place.past '-').line = place.line := by
    rw [place.past_inLine (by rfl)]
  simp [blockScalar, hsigns, hskip, endLine?_linefeed, hline]

theorem blockScalar_literal (place : Place) {text : List Char} (htext : Trimmed text) {d : Char}
    (hblank : isBlank d = false) (hbreak : isBreak d = false) (tail : List Char) :
    ∃ line, place.line < line ∧
      blockScalar true 0
          ⟨literalSigns text ++ '\n' :: literalText true text ++ '\n' :: d :: tail, place⟩ =
        some ⟨text, false, ⟨d :: tail, ⟨line, 0, 0⟩⟩⟩ := by
  rw [literalSigns_eq htext]
  obtain ⟨c, rest, rfl⟩ := List.exists_cons_of_ne_nil htext.nonempty
  obtain ⟨hblank₁, hbreak₁⟩ := htext.begins c rfl
  have hlines : literalText true (c :: rest) = scalarIndent ++ c :: literalText false rest := by
    simp [literalText, hbreak₁]
  have hrest : InBlock false (((⟨place.line + 1, 0, 0⟩ : Place).past ' ').past ' ' |>.past c)
      ⟨2, 2, [], [], isBlank c, [c]⟩ rest := by
    refine ⟨rfl, by simp, fun _ => ⟨rfl, rfl⟩, fun _ => rfl, fun d hd => (htext.ends d ?_).2⟩
    rw [List.getLast?_cons, Option.mem_def.mp hd]
    rfl
  obtain ⟨line, hline, hrun⟩ := blockLines_literalText (h := ⟨true, .strip, 0⟩) rfl rfl hrest hblank
    hbreak tail
  refine ⟨line, ?_, ?_⟩
  · have hle := Place.line_le_foldl_past ⟨place.line + 1, 0, 0⟩ [' ', ' ', c]
    exact Nat.lt_of_lt_of_le (Nat.lt_succ_self _) (Nat.le_trans hle (Nat.le_of_lt hline))
  · rw [List.singleton_append, List.cons_append, List.cons_append, blockScalar_strip, hlines,
      List.append_assoc, blockLines_indent rfl (.inr rfl), List.cons_append]
    refine (blockLines_firstInLine rfl ?_ (.inr ⟨rfl, rfl, hblank₁⟩) hbreak₁ _).trans ?_
    · rfl
    · exact hrun

end Literal

end ModuleCatalog.Yaml
