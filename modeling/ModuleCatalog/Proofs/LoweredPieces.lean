import Mathlib.Data.List.Basic
import ModuleCatalog.Text.Blank
import ModuleCatalog.Text.Lowercase

/-!
The lower case of a piece of a text. Only a capital sigma is lower-cased by what stands around it,
so that a piece reads the same in a text as alone if each of its sigmas does. Whether it does so in
every text is told by the piece: a sigma is settled if no text around the piece can change its form.
-/
namespace ModuleCatalog.Text

theorem occursIn_iff (needle text : List Char) : occursIn needle text = true ↔ needle <:+: text := by
  induction text with
  | nil => simp [occursIn]
  | cons c cs ih => simp [occursIn, ih, List.infix_cons_iff]

/-- The lower case of a piece of a text between what stands before it, read backwards, and after it.
-/
def lowerBetween (before after : List Char) : List Char → List Char
  | [] => []
  | c :: cs =>
    if c = '\u03A3' then lowerSigma before (cs ++ after) :: lowerBetween (c :: before) after cs
    else lowerChar c ++ lowerBetween (c :: before) after cs

theorem lowerAfter_append (before piece after : List Char) :
    lowerAfter before (piece ++ after) =
      lowerBetween before after piece ++ lowerAfter (piece.reverse ++ before) after := by
  induction piece generalizing before with
  | nil => rfl
  | cons c cs ih =>
    rw [List.cons_append, lowerAfter, lowerBetween, ih, List.reverse_cons, List.append_assoc]
    split <;> simp

theorem lowerBetween_nil (before piece : List Char) :
    lowerBetween before [] piece = lowerAfter before piece := by
  simpa [lowerAfter] using (lowerAfter_append before piece []).symm

theorem length_lowerBetween (before after before' after' piece : List Char) :
    (lowerBetween before after piece).length = (lowerBetween before' after' piece).length := by
  induction piece generalizing before before' with
  | nil => rfl
  | cons c cs ih =>
    have hcs := ih (c :: before) (c :: before')
    rw [lowerBetween, lowerBetween]
    split <;> simp [hcs]

/-- What holds wherever a character stands in a text holds at its front and in the rest. -/
theorem forall_split_cons {c d : Char} {cs : List Char} {P : List Char → List Char → Prop} :
    (∀ a b, c :: cs = a ++ d :: b → P a b) ↔
      (c = d → P [] cs) ∧ ∀ a b, cs = a ++ d :: b → P (c :: a) b := by
  constructor
  · intro h
    exact ⟨fun hc => h [] cs (by rw [hc]; rfl), fun a b hs => h (c :: a) b (by rw [hs]; rfl)⟩
  · rintro ⟨hfront, hrest⟩ a b hs
    cases a with
    | nil =>
      obtain ⟨hc, rfl⟩ := List.cons.inj hs
      exact hfront hc
    | cons x a =>
      obtain ⟨rfl, hcs⟩ := List.cons.inj hs
      exact hrest a b hcs

/-- A piece reads the same between other texts exactly if each of its sigmas does. -/
theorem lowerBetween_eq_iff {before after before' after' piece : List Char} :
    lowerBetween before after piece = lowerBetween before' after' piece ↔
      ∀ a b, piece = a ++ '\u03A3' :: b →
        lowerSigma (a.reverse ++ before) (b ++ after) =
          lowerSigma (a.reverse ++ before') (b ++ after') := by
  induction piece generalizing before before' with
  | nil => simp [lowerBetween]
  | cons c cs ih =>
    rw [forall_split_cons, lowerBetween, lowerBetween]
    simp only [List.reverse_cons, List.append_assoc, List.singleton_append]
    rw [← ih]
    by_cases hc : c = '\u03A3' <;> simp [hc]

/-- Every capital sigma of the piece has the form between the texts that it has in the piece alone.
-/
def KeepsSigmas (before piece after : List Char) : Prop :=
  ∀ a b, piece = a ++ '\u03A3' :: b →
    lowerSigma (a.reverse ++ before.reverse) (b ++ after) = lowerSigma a.reverse b

theorem lowerBetween_eq_lowerAfter_iff {before piece after : List Char} :
    lowerBetween before.reverse after piece = lowerAfter [] piece ↔
      KeepsSigmas before piece after := by
  rw [← lowerBetween_nil, lowerBetween_eq_iff]
  simp [KeepsSigmas]

section Neighbours

variable {before after : List Char}

/-- Ignorable characters alone leave it to what follows them which character is the nearest. -/
theorem nextIsCased_append (cs ds : List Char) :
    nextIsCased (cs ++ ds) = if cs.all isCaseIgnorable then nextIsCased ds else nextIsCased cs := by
  induction cs with
  | nil => rfl
  | cons c cs ih =>
    cases hc : isCaseIgnorable c with
    | false => simp [nextIsCased, hc]
    | true => simpa [nextIsCased, hc] using ih

theorem nextIsCased_of_all {cs : List Char} (h : cs.all isCaseIgnorable = true) :
    nextIsCased cs = false := by
  have hnil := nextIsCased_append cs []
  rwa [List.append_nil, if_pos h] at hnil

theorem lowerSigma_eq_iff {before' after' : List Char} :
    lowerSigma before after = lowerSigma before' after' ↔
      (nextIsCased before && !nextIsCased after) = (nextIsCased before' && !nextIsCased after') := by
  unfold lowerSigma
  cases nextIsCased before && !nextIsCased after <;>
    cases nextIsCased before' && !nextIsCased after' <;> decide

/-- A sigma between the parts of a piece, the first of which is read backwards, is settled if the
nearest character after it that is not ignorable is cased, or if there is such a character before it
and, where that one is cased, also after it. -/
def SettledSigma (before after : List Char) : Prop :=
  nextIsCased after = true ∨
    before.all isCaseIgnorable = false ∧
      (nextIsCased before = true → after.all isCaseIgnorable = false)

/-- What stands further away does not change the form of a settled sigma. -/
theorem SettledSigma.lowerSigma_eq (h : SettledSigma before after) (further beyond : List Char) :
    lowerSigma (before ++ further) (after ++ beyond) = lowerSigma before after := by
  rw [lowerSigma_eq_iff, nextIsCased_append, nextIsCased_append]
  rcases h with hcased | ⟨hbefore, hafter⟩
  · have hall : after.all isCaseIgnorable = false := by
      by_contra hall
      simp [nextIsCased_of_all (Bool.of_not_eq_false hall)] at hcased
    simp [hall, hcased]
  · cases hc : nextIsCased before with
    | false => simp [hbefore]
    | true => simp [hbefore, hafter hc]

/-- A letter at one end of the piece changes the form of a sigma that is not settled. -/
theorem lowerSigma_ne_of_not_settled (h : ¬ SettledSigma before after) :
    (∀ c, nextIsCased [c] = true → lowerSigma (before ++ [c]) after ≠ lowerSigma before after) ∨
      ∀ c, nextIsCased [c] = true → lowerSigma before (after ++ [c]) ≠ lowerSigma before after := by
  obtain ⟨hcased, hfar⟩ := not_or.mp h
  rw [Bool.not_eq_true] at hcased
  cases hall : before.all isCaseIgnorable with
  | true =>
    refine .inl fun c hc => ?_
    simp [lowerSigma_eq_iff, nextIsCased_append, hall, hc, hcased, nextIsCased_of_all hall]
  | false =>
    obtain ⟨hbefore, hafter⟩ : nextIsCased before = true ∧ after.all isCaseIgnorable = true := by
      simpa [hall] using hfar
    refine .inr fun c hc => ?_
    simp [lowerSigma_eq_iff, nextIsCased_append, hbefore, hafter, hc, hcased]

end Neighbours

/-- Every capital sigma of the piece is settled in it. -/
def SettledSigmas (piece : List Char) : Prop :=
  ∀ a b, piece = a ++ '\u03A3' :: b → SettledSigma a.reverse b

theorem SettledSigmas.keepsSigmas {piece : List Char} (h : SettledSigmas piece)
    (before after : List Char) : KeepsSigmas before piece after :=
  fun a b hs => (h a b hs).lowerSigma_eq before.reverse after

/-- A letter put to one end of a piece changes how it reads, unless its sigmas are settled. -/
theorem exists_not_keepsSigmas {piece : List Char} (h : ¬ SettledSigmas piece) :
    (∀ c, nextIsCased [c] = true → ¬ KeepsSigmas [c] piece []) ∨
      ∀ c, nextIsCased [c] = true → ¬ KeepsSigmas [] piece [c] := by
  simp only [SettledSigmas, not_forall] at h
  obtain ⟨a, b, hs, hab⟩ := h
  rcases lowerSigma_ne_of_not_settled hab with hne | hne
  · exact .inl fun c hc hkeeps => hne c hc (by simpa using hkeeps a b hs)
  · exact .inr fun c hc hkeeps => hne c hc (by simpa using hkeeps a b hs)

end ModuleCatalog.Text
