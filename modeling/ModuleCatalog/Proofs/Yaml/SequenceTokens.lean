import ModuleCatalog.Proofs.Yaml.QuotedScalars
import ModuleCatalog.Proofs.Yaml.UnquotedScalars

/-!
Splitting a block sequence under a key of a mapping into its tokens.

Between two items the lexer stands at the margin and remembers no key: whatever style an item has,
its line has ended, and a key that might have begun with it is given up.
-/
namespace ModuleCatalog.Yaml

/-- A character at which the lexer stops looking for the next token. -/
structure StartsToken (c : Char) : Prop where
  noBlank : isBlank c = false
  inLine : isBreak c = false
  noComment : c ≠ '#'
  noMark : c ≠ '\uFEFF'

/-- The tokens of a block sequence that is not indented. -/
def itemTokens (texts : List (List Char)) : List Token :=
  texts.flatMap fun text => [.blockEntry, .scalar (styleFor text) text]

namespace Lexer

theorem skipSpace_stop {c : Char} (h : StartsToken c) (flow keyAllowed : Bool) (place : Place)
    (cs : List Char) :
    skipSpace flow keyAllowed false place (c :: cs) = (keyAllowed, ⟨c :: cs, place⟩) := by
  obtain ⟨hspace, htab⟩ := isBlank_eq_false_iff.mp h.noBlank
  simp [skipSpace, isSeparator, hspace, htab, h.inLine, h.noComment, h.noMark]

/-- The lexer inside a block mapping whose keys stand at the margin. -/
def inMapping (cursor : Cursor) (tokens : List Token) (key : Option KeyPlace) (keyAllowed : Bool) :
    Lexer where
  cursor := cursor
  tokens := tokens
  tokenCount := tokens.length
  indent := 0
  outerIndents := [-1]
  key := key
  outerKeys := []
  keyAllowed := keyAllowed

section InMapping

variable {cursor : Cursor} {tokens : List Token} {key : Option KeyPlace} {keyAllowed : Bool}

theorem closeBlocks_inMapping (column : Nat) :
    (inMapping cursor tokens key keyAllowed).closeBlocks column =
      inMapping cursor tokens key keyAllowed := by
  have hclosings : closings column 0 [-1] = (0, 0, [-1]) := by
    simp [closings]
  simp [closeBlocks, inMapping, inFlow, hclosings]

/-- On a new line a key that was not needed is given up. -/
theorem approach?_nextLine {line : Nat} {rest : List Char}
    (hspace : skipSpace false keyAllowed false cursor.place cursor.rest =
      (true, ⟨rest, ⟨line, 0, 0⟩⟩))
    (hkey : ∀ k ∈ key, k.needed = false ∧ k.place.line < line) :
    (inMapping cursor tokens key keyAllowed).approach? =
      some (inMapping ⟨rest, ⟨line, 0, 0⟩⟩ tokens none true) := by
  have hstale : (inMapping ⟨rest, ⟨line, 0, 0⟩⟩ tokens key true).dropStale? =
      some (inMapping ⟨rest, ⟨line, 0, 0⟩⟩ tokens none true) := by
    cases key with
    | none => rfl
    | some k =>
      obtain ⟨hneeded, hline⟩ := hkey k rfl
      simp [dropStale?, isStale, inMapping, hneeded, hline]
  have hstep : (inMapping cursor tokens key keyAllowed).approach? =
      (inMapping ⟨rest, ⟨line, 0, 0⟩⟩ tokens key true).dropStale?.bind fun l =>
        some (l.closeBlocks l.cursor.column) := by
    rw [approach?]
    simp only [inMapping, inFlow, List.isEmpty_nil, Bool.not_true] at hspace ⊢
    rw [hspace]
    rfl
  rw [hstep, hstale, Option.bind_some]
  exact congrArg some (closeBlocks_inMapping 0)

theorem approach?_afterDash {c : Char} (h : StartsToken c) (line : Nat) (cs : List Char) :
    (inMapping ⟨' ' :: c :: cs, ⟨line, 1, 1⟩⟩ tokens none true).approach? =
      some (inMapping ⟨c :: cs, ⟨line, 2, 2⟩⟩ tokens none true) := by
  have hspace : skipSpace false true false ⟨line, 1, 1⟩ (' ' :: c :: cs) =
      (true, ⟨c :: cs, ⟨line, 2, 2⟩⟩) :=
    skipSpace_stop h false true ⟨line, 2, 2⟩ cs
  rw [approach?]
  simp only [inMapping, inFlow, List.isEmpty_nil, Bool.not_true, hspace]
  exact congrArg some (closeBlocks_inMapping 2)

end InMapping

/-- The lexer goes to the margin of a line next, where the given text is left to read. -/
def Reaches (l : Lexer) (rest : List Char) (tokens : List Token) : Prop :=
  ∃ line, l.approach? = some (inMapping ⟨rest, ⟨line, 0, 0⟩⟩ tokens none true)

section Reaches

variable {tokens : List Token} {key : Option KeyPlace} {keyAllowed : Bool} {d : Char}

theorem reaches_of_lineEnd (hd : StartsToken d) (rest : List Char) {place : Place}
    (hkey : ∀ k ∈ key, k.needed = false ∧ k.place.line ≤ place.line) :
    (inMapping ⟨'\n' :: d :: rest, place⟩ tokens key keyAllowed).Reaches (d :: rest) tokens := by
  refine ⟨place.line + 1, approach?_nextLine ?_ fun k hk => ?_⟩
  · have hbreak : isBreak '\n' = true := rfl
    rw [skipSpace, if_pos hbreak, place.past_break hbreak, skipSpace_stop hd]
    simp
  · obtain ⟨hneeded, hline⟩ := hkey k hk
    exact ⟨hneeded, Nat.lt_succ_of_le hline⟩

theorem reaches_of_margin (hd : StartsToken d) (rest : List Char) {line : Nat}
    (hkey : ∀ k ∈ key, k.needed = false ∧ k.place.line < line) :
    (inMapping ⟨d :: rest, ⟨line, 0, 0⟩⟩ tokens key true).Reaches (d :: rest) tokens :=
  ⟨line, approach?_nextLine (skipSpace_stop hd _ _ _ _) hkey⟩

end Reaches

section Scalars

variable {text tail : List Char} {tokens : List Token} {line : Nat} {c d : Char}

/-- The place where a key may have begun after a dash; it is never needed there. -/
def keyAfterDash (line : Nat) (tokens : List Token) : KeyPlace :=
  ⟨false, tokens.length, ⟨line, 2, 2⟩⟩

theorem keyAfterDash_before {line' : Nat} (h : line ≤ line') :
    ∀ k ∈ some (keyAfterDash line tokens), k.needed = false ∧ k.place.line ≤ line' := by
  rintro k ⟨⟩
  exact ⟨rfl, h⟩

theorem quotedScalar?_afterDash {style : Style} {cs : List Char} {s : Scanned}
    (hc : (⟨line, 2, 2⟩ : Place).past c = ⟨line, 3, 3⟩)
    (hs : quotedScalar (style == .singleQuoted) ⟨line, 3, 3⟩ .none [] 0 cs = some s) :
    (inMapping ⟨c :: cs, ⟨line, 2, 2⟩⟩ tokens none true).quotedScalar? style =
      some (inMapping s.cursor (.scalar style s.value :: tokens) (some (keyAfterDash line tokens))
        false) := by
  rw [← hc] at hs
  exact congrArg (Option.bind · _) hs

theorem plainScalar?_afterDash {cs : List Char} {s : Scanned}
    (hs : plainScalar false 1 ⟨line, 2, 2⟩ .none [] cs = some s) :
    (inMapping ⟨cs, ⟨line, 2, 2⟩⟩ tokens none true).plainScalar? =
      some (inMapping s.cursor (.scalar .plain s.value :: tokens) (some (keyAfterDash line tokens))
        s.crossedLine) :=
  congrArg (Option.bind · _) hs

theorem blockScalar?_afterDash {cs : List Char} {s : Scanned}
    (hs : blockScalar true 0 ⟨cs, ⟨line, 3, 3⟩⟩ = some s) :
    (inMapping ⟨'|' :: cs, ⟨line, 2, 2⟩⟩ tokens none true).blockScalar? .literal =
      some (inMapping s.cursor (.scalar .literal s.value :: tokens) none true) :=
  congrArg (Option.bind · _) hs

/-- After a dash, what is written is read as a scalar, and the lexer goes to the next line. -/
def ReadsScalar (style : Style) (text written : List Char) : Prop :=
  ∀ (line : Nat) (tokens : List Token) (d : Char) (tail : List Char), StartsToken d →
    ∃ c cs l, written ++ '\n' :: d :: tail = c :: cs ∧ StartsToken c ∧
      (inMapping ⟨c :: cs, ⟨line, 2, 2⟩⟩ tokens none true).readToken? c cs = some l ∧
      l.Reaches (d :: tail) (.scalar style text :: tokens)

theorem readsScalar_doubleQuoted (text : List Char) :
    ReadsScalar .doubleQuoted text ('"' :: text.flatMap doubleQuotedChar ++ ['"']) := by
  intro line tokens d tail hd
  have hplace : (⟨line, 3, 3⟩ : Place).column ≠ 0 := by simp
  obtain ⟨place, hline, hread⟩ := quotedScalar_double text hplace [] [] ('\n' :: d :: tail)
  exact ⟨'"', _, _, by simp, ⟨rfl, rfl, by decide, by decide⟩, quotedScalar?_afterDash rfl hread,
    reaches_of_lineEnd hd tail (keyAfterDash_before hline)⟩

theorem readsScalar_singleQuoted {text : List Char} (h : AllowsSingleQuotes text) :
    ReadsScalar .singleQuoted text ('\'' :: singleQuotedText false text ++ ['\'']) := by
  intro line tokens d tail hd
  have hbefore : BeforeRest ⟨line, 3, 3⟩ .none text :=
    ⟨fun _ => by simp, Gap.kept_none, h.printable, h.unfolded, h.unpadded⟩
  have hnext : ('\n' :: d :: tail).head? ≠ some '\'' := by simp
  obtain ⟨place, hline, hread⟩ := quotedScalar_single text hbefore [] hnext
  exact ⟨'\'', _, _, by simp, ⟨rfl, rfl, by decide, by decide⟩, quotedScalar?_afterDash rfl hread,
    reaches_of_lineEnd hd tail (keyAfterDash_before hline)⟩

/-- A text without an indicator at its front is read as a plain scalar. -/
theorem readToken?_plain {cs : List Char}
    (hsigns : "#,[]\x7b\x7d&*!|>'\"%@\x60".toList.contains c = false)
    (hmarks : "?:-".toList.contains c = false ∨ atSpace cs = false) (hc : StartsToken c) :
    (inMapping ⟨c :: cs, ⟨line, 2, 2⟩⟩ tokens none true).readToken? c cs =
      (inMapping ⟨c :: cs, ⟨line, 2, 2⟩⟩ tokens none true).plainScalar? := by
  have hflow : (inMapping ⟨c :: cs, ⟨line, 2, 2⟩⟩ tokens none true).inFlow = false := rfl
  have hcolumn :
      ((inMapping ⟨c :: cs, ⟨line, 2, 2⟩⟩ tokens none true).cursor.column == 0) = false := rfl
  have hsigns : c ∉ ['#', ',', '[', ']', '\x7b', '\x7d', '&', '*', '!', '|', '>', '\'', '"', '%',
      '@', '\x60'] := by
    simpa using hsigns
  simp only [List.mem_cons, List.not_mem_nil, or_false, not_or] at hsigns
  by_cases hmark : c = '?' ∨ c = ':' ∨ c = '-'
  · have hspace : atSpace cs = false := by
      refine hmarks.resolve_left ?_
      rcases hmark with rfl | rfl | rfl <;> decide
    have hbegins : beginsPlain false c cs = true := by
      have hblank : cs.head?.any isBlank = false := by
        cases cs with
        | nil => rfl
        | cons x xs =>
          simp only [atSpace, Bool.or_eq_false_iff] at hspace
          exact hspace.1
      rcases hmark with rfl | rfl | rfl <;> simp [beginsPlain, hspace, hblank]
    simp [readToken?, hsigns, hbegins, hflow, hcolumn, hspace]
  · simp only [not_or] at hmark
    have hbegins : beginsPlain false c cs = true := by
      simp [beginsPlain, hsigns, hmark, hc.noBlank, hc.inLine]
    simp [readToken?, hsigns, hmark, hbegins, hflow, hcolumn]

theorem readsScalar_plain {text : List Char} (h : AllowsPlain text) (htext : Trimmed text) :
    ReadsScalar .plain text text := by
  intro line tokens d tail hd
  obtain ⟨c, rest, rfl⟩ := List.exists_cons_of_ne_nil h.nonempty
  obtain ⟨hsigns, hmarks⟩ := signs_of_beginsWithIndicator_eq_false h.begins
  have hc : StartsToken c := by
    refine ⟨(htext.begins c rfl).1, (htext.begins c rfl).2, ?_, ?_⟩
    · rintro rfl
      exact absurd hsigns (by decide)
    · rintro rfl
      exact absurd (h.printable '\uFEFF' List.mem_cons_self) (by decide)
  have hmarks : "?:-".toList.contains c = false ∨ atSpace (rest ++ '\n' :: d :: tail) = false :=
    hmarks.imp_right fun hrest => Bool.eq_false_iff.mpr fun hspace => by
      simp [beforeSpace_of_atSpace hspace] at hrest
  have hread : plainScalar false 1 ⟨line, 2, 2⟩ .none [] (c :: rest ++ '\n' :: d :: tail) =
      some ⟨c :: rest, true, ⟨d :: tail, ⟨line + 1, 0, 0⟩⟩⟩ :=
    plainScalar_line h.plainRest (by decide) (by simp) [] hd.noBlank hd.inLine tail
  have hnext : (inMapping ⟨d :: tail, ⟨line + 1, 0, 0⟩⟩ (.scalar .plain (c :: rest) :: tokens)
      (some (keyAfterDash line tokens)) true).Reaches (d :: tail)
        (.scalar .plain (c :: rest) :: tokens) :=
    reaches_of_margin hd tail fun k hk =>
      (keyAfterDash_before (Nat.le_refl line) k hk).imp_right Nat.lt_succ_of_le
  refine ⟨c, rest ++ '\n' :: d :: tail, _, rfl, hc, ?_, hnext⟩
  rw [readToken?_plain hsigns hmarks hc]
  exact plainScalar?_afterDash hread

theorem readsScalar_literal {text : List Char} (htext : Trimmed text) :
    ReadsScalar .literal text ('|' :: literalSigns text ++ '\n' :: literalText true text) := by
  intro line tokens d tail hd
  obtain ⟨line', hline, hread⟩ := blockScalar_literal ⟨line, 3, 3⟩ htext hd.noBlank hd.inLine tail
  exact ⟨'|', _, _, by simp, ⟨rfl, rfl, by decide, by decide⟩, blockScalar?_afterDash hread,
    reaches_of_margin hd tail (by simp)⟩

/-- Whatever style the writer chooses for a text, the reader gets the text back. -/
theorem readsScalar_scalarText {text : List Char} (htext : Trimmed text) :
    ReadsScalar (styleFor text) text (scalarText text) := by
  have hsuits := suits_styleFor text
  unfold scalarText
  cases hstyle : styleFor text <;> rw [hstyle] at hsuits
  case plain => exact readsScalar_plain hsuits htext
  case singleQuoted => exact readsScalar_singleQuoted hsuits
  case literal => exact readsScalar_literal htext
  case doubleQuoted => exact readsScalar_doubleQuoted text
  case folded => exact hsuits.elim

end Scalars

section Items

variable {l l' : Lexer} {text tail : List Char} {tokens : List Token} {c d : Char}

theorem itemText_eq (htext : Trimmed text) :
    itemText text = '-' :: ' ' :: scalarText text ++ ['\n'] := by
  have hlast : text.getLast?.any isBreak = false := by
    cases hc : text.getLast? with
    | none => rfl
    | some c => exact (htext.ends c hc).2
  rw [itemText, hlast, Bool.and_false]
  rfl

theorem run?_step {l₁ l₂ : Lexer} {cs : List Char} (happroach : l.approach? = some l₁)
    (hrest : l₁.cursor.rest = c :: cs) (hread : l₁.readToken? c cs = some l₂) (n : Nat) :
    run? (n + 1) l = run? n l₂ := by
  rw [run?]
  simp only [happroach, hrest, hread]

theorem startsToken_dash : StartsToken '-' :=
  ⟨rfl, rfl, by decide, by decide⟩

/-- An item takes two steps, one for its dash and one for its text. -/
theorem run?_item (htext : Trimmed text) (hd : StartsToken d)
    (h : l.Reaches (itemText text ++ d :: tail) tokens) :
    ∃ l', l'.Reaches (d :: tail) (.scalar (styleFor text) text :: .blockEntry :: tokens) ∧
      ∀ n, run? (n + 2) l = run? n l' := by
  obtain ⟨line, happroach⟩ := h
  obtain ⟨c, cs, l₂, hcs, hc, hread, hnext⟩ :=
    readsScalar_scalarText htext line (.blockEntry :: tokens) d tail hd
  have hitem : itemText text ++ d :: tail = '-' :: ' ' :: c :: cs := by
    rw [itemText_eq htext, ← hcs]
    simp
  rw [hitem] at happroach
  refine ⟨l₂, hnext, fun n => ?_⟩
  rw [run?_step happroach rfl rfl (n + 1)]
  exact run?_step (approach?_afterDash hc line cs) rfl hread n

theorem run?_items {texts : List (List Char)} (htexts : ∀ text ∈ texts, Trimmed text)
    (hd : StartsToken d) (h : l.Reaches (texts.flatMap itemText ++ d :: tail) tokens) :
    ∃ l', l'.Reaches (d :: tail) ((itemTokens texts).reverse ++ tokens) ∧
      ∀ n, run? (n + 2 * texts.length) l = run? n l' := by
  induction texts generalizing l tokens with
  | nil => exact ⟨l, h, fun n => rfl⟩
  | cons text texts ih =>
    -- What follows the item begins with the dash of the next one, or else is what follows them all.
    obtain ⟨d', tail', hd', htail⟩ :
        ∃ d' tail', StartsToken d' ∧ texts.flatMap itemText ++ d :: tail = d' :: tail' := by
      cases texts with
      | nil => exact ⟨d, tail, hd, rfl⟩
      | cons next texts =>
        have hitem := itemText_eq (htexts next (by simp))
        exact ⟨'-', _, startsToken_dash, by rw [List.flatMap_cons, hitem]; rfl⟩
    rw [List.flatMap_cons, List.append_assoc, htail] at h
    obtain ⟨l₁, h₁, hstep⟩ := run?_item (htexts text List.mem_cons_self) hd' h
    rw [← htail] at h₁
    obtain ⟨l₂, h₂, hrun⟩ := ih (fun text ht => htexts text (List.mem_cons_of_mem _ ht)) h₁
    refine ⟨l₂, by simpa [itemTokens] using h₂, fun n => ?_⟩
    rw [List.length_cons, Nat.mul_succ, ← Nat.add_assoc, hstep, hrun]

theorem length_le_flatMap_itemText {texts : List (List Char)}
    (htexts : ∀ text ∈ texts, Trimmed text) :
    2 * texts.length ≤ (texts.flatMap itemText).length := by
  induction texts with
  | nil => simp
  | cons text texts ih =>
    have hrest := ih fun text ht => htexts text (List.mem_cons_of_mem _ ht)
    rw [List.flatMap_cons, itemText_eq (htexts text List.mem_cons_self)]
    simp only [List.cons_append, List.length_cons, List.length_append]
    omega

end Items

end Lexer

end ModuleCatalog.Yaml
