import ModuleCatalog.Catalog.Display
import ModuleCatalog.Proofs.LoweredPieces

/-!
Which entries a search finds for a query that one of their texts holds as it is written. The texts
are compared in lower case, and the lower case of the query is a piece of the lower case of the text
if the query reads the same there as alone. A query with a capital sigma that is not settled is held
by some text in which it reads differently, and is then missed.
-/
namespace ModuleCatalog

namespace Entry

/-- The texts of an entry that a search looks at. -/
def searched (e : Entry) : List String :=
  [e.name, e.description, e.author]

/-- One of the searched texts holds the given one, letter by letter. -/
def Holds (e : Entry) (text : String) : Prop :=
  ∃ t ∈ e.searched, text.toList <:+: t.toList

end Entry

namespace Catalog

open Text (KeepsSigmas SettledSigmas lowerAfter lowerBetween nextIsCased)

theorem mem_search_iff {entries : List Entry} {e : Entry} {query : String} :
    e ∈ search entries query ↔ e ∈ entries ∧ (Text.trim query = "" ∨
      ∃ t ∈ e.searched, lowerAfter [] (Text.trim query).toList <:+: lowerAfter [] t.toList) := by
  rw [search, List.mem_filter, answers]
  simp [isHit, holdsLowered, Entry.searched, Text.occursIn_iff, Text.lower, or_assoc]

/-- A piece that keeps its sigmas is a piece in lower case as well. -/
theorem infix_lowerAfter {before piece after : List Char} (h : KeepsSigmas before piece after) :
    lowerAfter [] piece <:+: lowerAfter [] (before ++ piece ++ after) := by
  rw [← Text.lowerBetween_eq_lowerAfter_iff] at h
  rw [List.append_assoc, Text.lowerAfter_append, Text.lowerAfter_append, List.append_nil, h,
    ← List.append_assoc]
  exact List.infix_append _ _ _

/-- There is a letter that is its own lower case and differs from a given character. -/
theorem exists_letter (x : Option Char) : ∃ c, x ≠ some c ∧ nextIsCased [c] = true ∧
    ∀ before cs, lowerAfter before (c :: cs) = c :: lowerAfter (c :: before) cs := by
  have hletter (c : Char) (hsigma : c ≠ '\u03A3') (hlower : Text.lowerChar c = [c])
      (before cs : List Char) : lowerAfter before (c :: cs) = c :: lowerAfter (c :: before) cs := by
    rw [lowerAfter, if_neg hsigma, hlower, List.singleton_append]
  by_cases hx : x = some 'a'
  · exact ⟨'b', by simp [hx], by decide +kernel, hletter 'b' (by decide) (by decide +kernel)⟩
  · exact ⟨'a', hx, by decide +kernel, hletter 'a' (by decide) (by decide +kernel)⟩

theorem infix_of_infix_cons {c : Char} {piece text : List Char} (h : piece <:+: c :: text)
    (hc : piece.head? ≠ some c) : piece <:+: text := by
  rcases List.infix_cons_iff.mp h with hprefix | hrest
  · obtain rfl | ⟨t, rfl, -⟩ := List.prefix_cons_iff.mp hprefix
    · exact List.nil_infix
    · exact absurd rfl hc
  · exact hrest

theorem infix_of_infix_concat {c : Char} {piece text : List Char} (h : piece <:+: text ++ [c])
    (hc : piece.getLast? ≠ some c) : piece <:+: text := by
  rcases List.infix_concat_iff.mp h with hsuffix | hrest
  · obtain rfl | ⟨t, rfl, -⟩ := List.suffix_concat_iff.mp hsuffix
    · exact List.nil_infix
    · exact absurd List.getLast?_concat hc
  · exact hrest

/-- The lower case of a piece alone is as long as that between other texts, so that it is found
there only if they are the same. -/
theorem keepsSigmas_of_infix {before piece after : List Char}
    (h : lowerAfter [] piece <:+: lowerBetween before.reverse after piece) :
    KeepsSigmas before piece after := by
  refine Text.lowerBetween_eq_lowerAfter_iff.mp (h.eq_of_length ?_).symm
  rw [← Text.lowerBetween_nil, Text.length_lowerBetween]

/-- A piece whose sigmas are not settled stands in some text whose lower case does not hold its own:
the letter put to it is neither the first nor the last of the lower-cased piece, so that it could
only stand where the piece stands. -/
theorem exists_missing_text {piece : List Char} (h : ¬ SettledSigmas piece) :
    ∃ text, piece <:+: text ∧ ¬ lowerAfter [] piece <:+: lowerAfter [] text := by
  rcases Text.exists_not_keepsSigmas h with hchanged | hchanged
  · obtain ⟨c, hfirst, hcased, hlower⟩ := exists_letter (lowerAfter [] piece).head?
    refine ⟨c :: piece, (List.suffix_cons c piece).isInfix, fun hinfix => hchanged c hcased ?_⟩
    rw [hlower, ← Text.lowerBetween_nil [c]] at hinfix
    exact keepsSigmas_of_infix (infix_of_infix_cons hinfix hfirst)
  · obtain ⟨c, hlast, hcased, hlower⟩ := exists_letter (lowerAfter [] piece).getLast?
    refine ⟨piece ++ [c], (List.prefix_append piece [c]).isInfix, fun hinfix => hchanged c hcased ?_⟩
    rw [Text.lowerAfter_append, hlower, lowerAfter] at hinfix
    exact keepsSigmas_of_infix (infix_of_infix_concat hinfix hlast)

/-- An entry that has the name and no other text. -/
def named (name : String) : Entry :=
  ⟨.modules, "", name, "", "", "", "", "", Entry.visibleFlag, "", "", true⟩

/-- A search finds an entry that holds the query in a place where each capital sigma of the query
has the form that it has in the query alone. Every entry that holds the query anywhere is found
exactly if the capital sigmas of the query are settled, which they are if it has none. -/
theorem literal_matches_found (query : String) :
    (∀ (entries : List Entry) (e : Entry) (text : String) (before after : List Char),
      e ∈ entries → text ∈ e.searched →
      text.toList = before ++ (Text.trim query).toList ++ after →
      KeepsSigmas before (Text.trim query).toList after → e ∈ search entries query) ∧
    ((∀ entries, ∀ e ∈ entries, e.Holds (Text.trim query) → e ∈ search entries query) ↔
      SettledSigmas (Text.trim query).toList) := by
  have hfound (entries : List Entry) (e : Entry) (text : String) (before after : List Char)
      (he : e ∈ entries) (htext : text ∈ e.searched)
      (hplace : text.toList = before ++ (Text.trim query).toList ++ after)
      (hkeeps : KeepsSigmas before (Text.trim query).toList after) : e ∈ search entries query := by
    have hinfix := infix_lowerAfter hkeeps
    rw [← hplace] at hinfix
    exact mem_search_iff.mpr ⟨he, .inr ⟨text, htext, hinfix⟩⟩
  refine ⟨hfound, fun h => ?_, fun h entries e he hholds => ?_⟩
  · by_contra hsettled
    obtain ⟨text, hholds, hmissed⟩ := exists_missing_text hsettled
    have hsearch := h [named (.ofList text)] _ List.mem_cons_self
      ⟨_, List.mem_cons_self, by simpa [named] using hholds⟩
    refine hmissed ?_
    obtain ⟨-, hblank | ⟨t, ht, hinfix⟩⟩ := mem_search_iff.mp hsearch
    · rw [hblank]
      exact List.nil_infix
    · obtain rfl | rfl : t = .ofList text ∨ t = "" := by simpa [named, Entry.searched] using ht
      · simpa using hinfix
      · exact hinfix.trans List.nil_infix
  · obtain ⟨text, htext, before, after, hplace⟩ := hholds
    exact hfound entries e text before after he htext hplace.symm (h.keepsSigmas before after)

/-- The last sigma of the first query ends a word in the name as well; both sigmas of the second one
have a letter after them. -/
theorem literal_matches_found_sigmas :
    KeepsSigmas [] (Text.trim " ΟΔΥΣ").toList " 2".toList ∧
      named "ΟΔΥΣ 2" ∈ search [named "ΟΔΥΣ 2"] " ΟΔΥΣ" ∧
      SettledSigmas (Text.trim "ΣΣΕ").toList ∧
      named "ΟΔΥΣΣΕΥΣ" ∈ search [named "ΟΔΥΣΣΕΥΣ"] "ΣΣΕ" := by
  have hend (a b : List Char) : [] ≠ a ++ 'Σ' :: b := by simp
  have hkeeps : KeepsSigmas [] (Text.trim " ΟΔΥΣ").toList " 2".toList := by
    have htrim : (Text.trim " ΟΔΥΣ").toList = ['Ο', 'Δ', 'Υ', 'Σ'] := by decide +kernel
    simp only [htrim, KeepsSigmas, Text.forall_split_cons, hend, false_implies, implies_true, and_true]
    decide +kernel
  have hsettled : SettledSigmas (Text.trim "ΣΣΕ").toList := by
    have htrim : (Text.trim "ΣΣΕ").toList = ['Σ', 'Σ', 'Ε'] := by decide +kernel
    simp only [htrim, SettledSigmas, Text.SettledSigma, Text.forall_split_cons, hend, false_implies,
      implies_true, and_true]
    decide +kernel
  refine ⟨hkeeps, ?_, hsettled, ?_⟩
  · exact (literal_matches_found " ΟΔΥΣ").1 [named "ΟΔΥΣ 2"] _ "ΟΔΥΣ 2" [] " 2".toList
      List.mem_cons_self List.mem_cons_self (by decide +kernel) hkeeps
  · exact (literal_matches_found "ΣΣΕ").2.mpr hsettled [named "ΟΔΥΣΣΕΥΣ"] _ List.mem_cons_self
      ⟨_, List.mem_cons_self, "ΟΔΥ".toList, "ΥΣ".toList, by decide +kernel⟩

/-- The sigma of the query ends it, and is in the middle of the name that holds it. -/
theorem literal_match_missed :
    (named "ΟΔΥΣΣΕΥΣ").Holds (Text.trim "ΟΔΥΣ") ∧ search [named "ΟΔΥΣΣΕΥΣ"] "ΟΔΥΣ" = [] :=
  ⟨⟨_, List.mem_cons_self, [], "ΣΕΥΣ".toList, by decide +kernel⟩, by decide +kernel⟩

end Catalog

end ModuleCatalog
