import ModuleCatalog.Yaml.Lexer
import ModuleCatalog.Yaml.Writer
import Mathlib.Data.List.Chain
import Mathlib.Tactic.Ring

/-!
The characters of a written text, and what each style promises about the text it is chosen for.

Everything the writer puts down is printable, so no character of it is refused or taken for another
line break than a line feed when it is read.
-/
namespace ModuleCatalog.Yaml

section Characters

variable {c : Char}

theorem isAllowed_of_isPrintable (h : isPrintable c = true) : isAllowed c = true := by
  simp only [isPrintable, isAllowed, Bool.or_eq_true, Bool.and_eq_true, beq_iff_eq, bne_iff_ne,
    decide_eq_true_eq] at h ⊢
  omega

theorem isBlank_of_isPrintable (h : isPrintable c = true) : isBlank c = (c == ' ') := by
  have htab : c ≠ '\t' := by
    rintro rfl
    cases h
  simp [isBlank, htab]

theorem breaksLine_of_isPrintable (h : isPrintable c = true) : breaksLine c = isBreak c := by
  have hreturn : (c == '\r') = false := by
    rw [beq_eq_false_iff_ne]
    rintro rfl
    cases h
  have hnext : (c == '\u0085') = false := by
    rw [beq_eq_false_iff_ne]
    rintro rfl
    cases h
  rw [breaksLine, hreturn, hnext, Bool.or_false, Bool.or_false]

theorem breaksLine_of_isBreak (h : isBreak c = true) : breaksLine c = true := by
  simp [breaksLine, h]

theorem isBreak_eq_false_of_isBlank (h : isBlank c = true) : isBreak c = false := by
  simp only [isBlank, Bool.or_eq_true, beq_iff_eq] at h
  rcases h with rfl | rfl <;> rfl

theorem isBlank_eq_false_of_isBreak (h : isBreak c = true) : isBlank c = false := by
  by_contra hblank
  simp [isBreak_eq_false_of_isBlank (Bool.of_not_eq_false hblank)] at h

theorem isBlank_eq_false_iff : isBlank c = false ↔ c ≠ ' ' ∧ c ≠ '\t' := by
  simp [isBlank]

theorem uniformBreaks_eq_self {cs : List Char} (h : ∀ c ∈ cs, isPrintable c = true) :
    uniformBreaks cs = cs := by
  induction cs using uniformBreaks.induct with
  | case1 cs ih => exact absurd (h '\r' (by simp)) (by decide)
  | case2 cs hlinefeed ih => exact absurd (h '\r' (by simp)) (by decide)
  | case3 c cs hreturn hreturn' ih =>
    have hnext : c ≠ '\u0085' := by
      rintro rfl
      exact absurd (h '\u0085' (by simp)) (by decide)
    rw [uniformBreaks, if_neg hnext, ih fun d hd => h d (List.mem_cons_of_mem _ hd)]
    · exact hreturn
    · exact hreturn'
  | case4 => rfl

end Characters

section HexDigits

theorem hexDigits_succ (k n : Nat) :
    hexDigits (k + 1) n = Text.capitalHexDigit (n / 16 ^ k % 16) :: hexDigits k n := by
  rw [hexDigits, List.range_succ_eq_map, List.map_cons, List.map_map, hexDigits]
  congr 1
  apply List.map_congr_left
  intro i hi
  have hexponent : k + 1 - 1 - (i + 1) = k - 1 - i := by omega
  simp only [Function.comp_apply, hexponent]

theorem length_hexDigits (k n : Nat) : (hexDigits k n).length = k := by
  simp [hexDigits]

theorem mem_hexDigits {k n : Nat} {c : Char} (h : c ∈ hexDigits k n) :
    ∃ d < 16, c = Text.capitalHexDigit d := by
  induction k with
  | zero => simp [hexDigits] at h
  | succ k ih =>
    rw [hexDigits_succ, List.mem_cons] at h
    rcases h with rfl | h
    · exact ⟨_, Nat.mod_lt _ (by decide), rfl⟩
    · exact ih h

theorem hexDigit_inLine :
    ∀ d < 16, isPrintable (Text.capitalHexDigit d) = true ∧
      isBreak (Text.capitalHexDigit d) = false := by
  decide

end HexDigits

/-- A text that begins and ends with something else than a space, a tab or a line break. -/
structure Trimmed (cs : List Char) : Prop where
  nonempty : cs ≠ []
  begins : ∀ c ∈ cs.head?, isBlank c = false ∧ isBreak c = false
  ends : ∀ c ∈ cs.getLast?, isBlank c = false ∧ isBreak c = false

section Styles

variable {cs : List Char}

/-- What may stand next to each other in a text that is not escaped: no space before a break. With
single quotes none may follow it either, since the indentation of a line is not part of its text. -/
def Unpadded (c d : Char) : Prop :=
  ¬(c = ' ' ∧ isBreak d = true) ∧ ¬(isBreak c = true ∧ d = ' ')

structure AllowsPlain (cs : List Char) : Prop where
  printable : ∀ c ∈ cs, isPrintable c = true
  unbroken : ∀ c ∈ cs, isBreak c = false
  nonempty : cs ≠ []
  begins : beginsWithIndicator cs = false
  holds : ∀ c rest, cs = c :: rest → holdsIndicator c rest = false
  ends : ∀ c ∈ cs.getLast?, c ≠ ' '

structure AllowsSingleQuotes (cs : List Char) : Prop where
  printable : ∀ c ∈ cs, isPrintable c = true
  unfolded : '\n' ∉ cs
  unpadded : cs.IsChain Unpadded

theorem isChain_of_holdsPair_eq_false {p q : Char → Bool} (h : holdsPair p q cs = false) :
    cs.IsChain fun c d => ¬(p c = true ∧ q d = true) := by
  induction cs using holdsPair.induct with
  | case1 c d cs ih =>
    simp only [holdsPair, Bool.or_eq_false_iff, Bool.and_eq_false_iff] at h
    refine List.IsChain.cons_cons ?_ (ih h.2)
    rintro ⟨hp, hq⟩
    simp [hp, hq] at h
  | case2 cs hshort =>
    match cs with
    | [] => exact .nil
    | [c] => exact .singleton c
    | c :: d :: cs => exact absurd rfl (hshort c d cs)

theorem allowsPlain_of_shape (hquotes : needsQuotes cs = false)
    (h : (Shape.of cs).plain = true) : AllowsPlain cs := by
  simp only [Shape.of, Bool.and_eq_true, Bool.not_eq_true', Bool.or_eq_false_iff,
    List.any_eq_false, Bool.not_eq_false] at h
  obtain ⟨⟨⟨⟨hprintable, -⟩, hbegins, hholds⟩, hunbroken⟩, -, hends⟩ := h
  refine ⟨hprintable, fun c hc => ?_, ?_, hbegins, ?_, fun c hc => ?_⟩
  · rw [← breaksLine_of_isPrintable (hprintable c hc)]
    exact Bool.eq_false_iff.mpr (hunbroken c hc)
  · rintro rfl
    cases hquotes
  · rintro c rest rfl
    exact hholds
  · rintro rfl
    simp [Option.mem_def.mp hc] at hends

theorem allowsSingleQuotes_of_shape (hunfolded : '\n' ∉ cs) (h : (Shape.of cs).single = true) :
    AllowsSingleQuotes cs := by
  simp only [Shape.of, Bool.and_eq_true, Bool.not_eq_true', Bool.or_eq_false_iff,
    List.any_eq_false, Bool.not_eq_false] at h
  obtain ⟨⟨hprintable, hbefore⟩, hafter⟩ := h
  refine ⟨hprintable, hunfolded, List.isChain_iff_getElem.mpr fun i hi => ?_⟩
  have hbefore := (isChain_of_holdsPair_eq_false hbefore).getElem i hi
  have hafter := (isChain_of_holdsPair_eq_false hafter).getElem i hi
  constructor
  · rintro ⟨hspace, hbreak⟩
    exact hbefore ⟨by simp [hspace], breaksLine_of_isBreak hbreak⟩
  · rintro ⟨hbreak, hspace⟩
    exact hafter ⟨breaksLine_of_isBreak hbreak, by simp [hspace]⟩

theorem isPrintable_of_shape_block (h : (Shape.of cs).block = true) :
    ∀ c ∈ cs, isPrintable c = true := by
  simp only [Shape.of, Bool.and_eq_true, Bool.not_eq_true', Bool.or_eq_false_iff,
    List.any_eq_false, Bool.not_eq_false] at h
  exact h.1.1.1

/-- What a text has to be like to be written in a style. -/
def Suits (cs : List Char) : Style → Prop
  | .plain => AllowsPlain cs
  | .singleQuoted => AllowsSingleQuotes cs
  | .literal => ∀ c ∈ cs, isPrintable c = true
  | .doubleQuoted => True
  | .folded => False

theorem suits_styleFor (cs : List Char) : Suits cs (styleFor cs) := by
  simp only [styleFor]
  split
  · split
    · next hblock => exact isPrintable_of_shape_block hblock
    · trivial
  next hunfolded =>
  split
  · next hplain =>
    simp only [Bool.and_eq_true, Bool.not_eq_true'] at hplain
    exact allowsPlain_of_shape hplain.1 hplain.2
  split
  · next hsingle => exact allowsSingleQuotes_of_shape (by simpa using hunfolded) hsingle
  · trivial

end Styles

section Printable

variable {c d : Char} {cs : List Char}

theorem isPrintable_of_escapeLetter? (h : escapeLetter? c = some d) : isPrintable d = true := by
  unfold escapeLetter? at h
  split at h <;> cases h <;> rfl

theorem isPrintable_of_mem_hexDigits {k n : Nat} (h : c ∈ hexDigits k n) :
    isPrintable c = true := by
  obtain ⟨d, hd, rfl⟩ := mem_hexDigits h
  exact (hexDigit_inLine d hd).1

theorem isPrintable_of_mem_doubleQuotedChar (h : d ∈ doubleQuotedChar c) :
    isPrintable d = true := by
  have hhex (letter : Char) (hletter : isPrintable letter = true) (k : Nat)
      (hd : d ∈ '\\' :: letter :: hexDigits k c.toNat) : isPrintable d = true := by
    rcases List.mem_cons.mp hd with rfl | hd
    · rfl
    rcases List.mem_cons.mp hd with rfl | hd
    · exact hletter
    · exact isPrintable_of_mem_hexDigits hd
  unfold doubleQuotedChar at h
  split at h
  · next letter hletter =>
    simp only [List.mem_cons, List.not_mem_nil, or_false] at h
    rcases h with rfl | rfl
    · rfl
    · exact isPrintable_of_escapeLetter? hletter
  split at h
  · next hprintable => rwa [List.mem_singleton.mp h]
  split at h
  · exact hhex 'x' rfl 2 h
  split at h
  · exact hhex 'u' rfl 4 h
  · exact hhex 'U' rfl 8 h

/-- Apart from the text itself there are only the indentations of its lines. -/
theorem mem_singleQuotedText {afterBreak : Bool} (h : d ∈ singleQuotedText afterBreak cs) :
    d ∈ cs ∨ d ∈ scalarIndent := by
  induction cs generalizing afterBreak with
  | nil =>
    cases afterBreak with
    | false => cases h
    | true => exact .inr h
  | cons c cs ih =>
    rw [singleQuotedText] at h
    split at h
    · rcases List.mem_cons.mp h with rfl | h
      · exact .inl List.mem_cons_self
      · exact (ih h).imp_left (List.mem_cons_of_mem _)
    · rcases List.mem_append.mp h with h | h
      · have hsign : d ∈ (if c = '\'' then ['\'', '\''] else [c]) → d = c := by
          split <;> simp_all
        cases afterBreak with
        | false => exact .inl (List.mem_cons.mpr (.inl (hsign h)))
        | true =>
          refine ((List.mem_append.mp h).imp_right fun h => ?_).symm
          exact List.mem_cons.mpr (.inl (hsign h))
      · exact (ih h).imp_left (List.mem_cons_of_mem _)

theorem mem_literalText {afterBreak : Bool} (h : d ∈ literalText afterBreak cs) :
    d ∈ cs ∨ d ∈ scalarIndent := by
  induction cs generalizing afterBreak with
  | nil => cases h
  | cons c cs ih =>
    rw [literalText] at h
    split at h
    · rcases List.mem_cons.mp h with rfl | h
      · exact .inl List.mem_cons_self
      · exact (ih h).imp_left (List.mem_cons_of_mem _)
    · rcases List.mem_append.mp h with h | h
      · cases afterBreak with
        | false => exact .inl (List.mem_cons.mpr (.inl (List.mem_singleton.mp h)))
        | true =>
          refine ((List.mem_append.mp h).imp_right fun h => ?_).symm
          exact List.mem_cons.mpr (.inl (List.mem_singleton.mp h))
      · exact (ih h).imp_left (List.mem_cons_of_mem _)

theorem isPrintable_of_mem_or_indent (hcs : ∀ c ∈ cs, isPrintable c = true)
    (h : d ∈ cs ∨ d ∈ scalarIndent) : isPrintable d = true := by
  rcases h with h | h
  · exact hcs d h
  · rw [List.eq_of_mem_replicate (n := 2) h]
    rfl

theorem isPrintable_of_mem_literalSigns (h : d ∈ literalSigns cs) : isPrintable d = true := by
  have hmem : d ∈ ['2', '-', '+'] := by
    unfold literalSigns at h
    simp only [List.mem_append] at h
    rcases h with h | h
    · split at h <;> simp_all
    · split at h
      · split at h
        · simp_all
        · split at h <;> simp_all
      · split at h <;> simp_all
      · simp_all
  simp only [List.mem_cons, List.not_mem_nil, or_false] at hmem
  rcases hmem with rfl | rfl | rfl <;> rfl

theorem isPrintable_of_mem_scalarText (h : d ∈ scalarText cs) : isPrintable d = true := by
  have hsuits := suits_styleFor cs
  have hquoted : d ∈ '"' :: cs.flatMap doubleQuotedChar ++ ['"'] → isPrintable d = true := by
    simp only [List.cons_append, List.mem_cons, List.mem_append, List.mem_flatMap,
      List.not_mem_nil, or_false]
    rintro (rfl | ⟨c, -, h⟩ | rfl)
    · rfl
    · exact isPrintable_of_mem_doubleQuotedChar h
    · rfl
  unfold scalarText at h
  cases hstyle : styleFor cs <;> rw [hstyle] at h hsuits
  case plain => exact hsuits.printable d h
  case singleQuoted =>
    simp only [List.cons_append, List.mem_cons, List.mem_append, List.not_mem_nil, or_false] at h
    rcases h with rfl | h | rfl
    · rfl
    · exact isPrintable_of_mem_or_indent hsuits.printable (mem_singleQuotedText h)
    · rfl
  case literal =>
    simp only [List.cons_append, List.mem_cons, List.mem_append] at h
    rcases h with rfl | h | rfl | h
    · rfl
    · exact isPrintable_of_mem_literalSigns h
    · rfl
    · exact isPrintable_of_mem_or_indent hsuits (mem_literalText h)
  case doubleQuoted => exact hquoted h
  case folded => exact hquoted h

theorem isPrintable_of_mem_itemText (h : d ∈ itemText cs) : isPrintable d = true := by
  have hmem : d ∈ '-' :: ' ' :: scalarText cs ++ ['\n'] := by
    unfold itemText at h
    split at h
    · exact List.mem_append_left _ h
    · exact h
  simp only [List.cons_append, List.mem_cons, List.mem_append, List.not_mem_nil, or_false] at hmem
  rcases hmem with rfl | rfl | h | rfl
  · rfl
  · rfl
  · exact isPrintable_of_mem_scalarText h
  · rfl

end Printable

end ModuleCatalog.Yaml
