import ModuleCatalog.Proofs.ReleaseTags

/-!
Which tag of an address is taken: the longest one after the leftmost mark that any tag follows. Main
statement: `leftmost_tag_taken`. Marks may overlap, and one without a tag after it hides none.
-/
namespace ModuleCatalog.Release

/-- The tag whose mark stands at the front of a text is a longest run of tag characters. -/
theorem tagHere?_eq_some_iff {cs tag : List Char} :
    tagHere? cs = some tag ↔
      IsTag tag ∧ ∃ rest, cs = tagMark ++ tag ++ rest ∧ ∀ c ∈ rest.head?, isTagChar c = false := by
  constructor
  · intro h
    refine ⟨isTag_of_tagHere? h, ?_⟩
    cases hafter : after? tagMark cs with
    | none =>
      rw [tagHere?, hafter] at h
      cases h
    | some rest =>
      have hrun : rest.takeWhile isTagChar = tag := by
        simp only [tagHere?, hafter] at h
        split at h
        · cases h
        · exact Option.some.inj h
      refine ⟨rest.dropWhile isTagChar, ?_, fun c hc => ?_⟩
      · rw [after?_eq_some_iff.mp hafter, ← hrun, List.append_assoc, List.takeWhile_append_dropWhile]
      · have hstop := List.head?_dropWhile_not isTagChar rest
        rw [Option.mem_def.mp hc] at hstop
        simpa using hstop
  · rintro ⟨⟨hne, hchars⟩, rest, rfl, hrest⟩
    have hrun : (tag ++ rest).takeWhile isTagChar = tag := takeWhile_append_stop hchars hrest
    rw [List.append_assoc, tagHere?, after?_append]
    obtain ⟨c, cs, rfl⟩ := List.exists_cons_of_ne_nil hne
    simp only [hrun]

/-- The characters that end a tag. -/
def EndsTag (c : Char) : Prop :=
  c = '/' ∨ c = '?' ∨ Text.isBlank c = true

theorem endsTag_iff {c : Char} : EndsTag c ↔ isTagChar c = false := by
  rw [← Bool.not_eq_true, isTagChar_iff, EndsTag]
  simp only [not_and_or, ne_eq, not_not, Bool.not_eq_false]

/-- Says that after a part of a text the mark of tags stands, and after it a longest run of one or
more characters that end no tag. -/
structure TagAfter (cs before tag : List Char) : Prop where
  ne_nil : tag ≠ []
  chars : ∀ c ∈ tag, ¬EndsTag c
  longest : ∃ rest, cs = before ++ "/tag/".toList ++ tag ++ rest ∧ ∀ c ∈ rest.head?, EndsTag c

/-- Says that no mark of tags that stands after less than `before` has a character of a tag after
it. -/
def NoTagSooner (cs before : List Char) : Prop :=
  ∀ sooner c after, cs = sooner ++ "/tag/".toList ++ c :: after → sooner.length < before.length →
    EndsTag c

section Places

variable {cs before tag : List Char}

theorem tagAfter_iff :
    TagAfter cs before tag ↔ ∃ front, cs = before ++ front ∧ tagHere? front = some tag := by
  constructor
  · rintro ⟨hne, hchars, rest, hcs, hrest⟩
    refine ⟨tagMark ++ tag ++ rest, by simpa [tagMark] using hcs, ?_⟩
    rw [tagHere?_eq_some_iff]
    refine ⟨⟨hne, fun c hc => ?_⟩, rest, rfl, fun c hc => endsTag_iff.mp (hrest c hc)⟩
    simpa [endsTag_iff] using hchars c hc
  · rintro ⟨front, rfl, hfront⟩
    obtain ⟨⟨hne, hchars⟩, rest, rfl, hrest⟩ := tagHere?_eq_some_iff.mp hfront
    refine ⟨hne, fun c hc => ?_, rest, by simp [tagMark], fun c hc => endsTag_iff.mpr (hrest c hc)⟩
    simpa [endsTag_iff] using hchars c hc

theorem noTagSooner_iff (h : before <+: cs) :
    NoTagSooner cs before ↔ ∀ j < before.length, tagHere? (cs.drop j) = none := by
  simp only [tagHere?_eq_none_iff, ← endsTag_iff]
  constructor
  · intro hsooner j hj c after hcs
    have hlength : (cs.take j).length = j := List.length_take_of_le (hj.le.trans h.length_le)
    apply hsooner (cs.take j) c after _ (hlength.symm ▸ hj)
    rw [List.append_assoc]
    exact (hcs ▸ (List.take_append_drop j cs)).symm
  · rintro hnone sooner c after hcs hlt
    apply hnone sooner.length hlt c after
    rw [hcs, List.append_assoc, List.drop_left]
    rfl

theorem findTag?_eq_some_iff :
    findTag? cs = some tag ↔ ∃ before, TagAfter cs before tag ∧ NoTagSooner cs before := by
  rw [searches_findTag?.eq_some_iff]
  constructor
  · rintro ⟨i, hi, hbefore⟩
    have hsplit : cs = cs.take i ++ cs.drop i := (List.take_append_drop i cs).symm
    refine ⟨cs.take i, tagAfter_iff.mpr ⟨cs.drop i, hsplit, hi⟩, ?_⟩
    rw [noTagSooner_iff (List.take_prefix i cs)]
    intro j hj
    exact hbefore j (hj.trans_le (List.length_take_le i cs))
  · rintro ⟨before, htag, hsooner⟩
    obtain ⟨front, rfl, hfront⟩ := tagAfter_iff.mp htag
    refine ⟨before.length, by rwa [List.drop_left], ?_⟩
    exact (noTagSooner_iff (List.prefix_append before front)).mp hsooner

end Places

/-- The tag of an address is the longest run of tag characters after the leftmost mark of tags that
has one after it, and there is none exactly if no mark has. So a mark with a tag after it is enough
for a tag to be found, whatever marks stand before it. -/
theorem leftmost_tag_taken (address : String) :
    (∀ tag, extractTag? address = some tag ↔
      ∃ before, TagAfter address.toList before tag.toList ∧ NoTagSooner address.toList before) ∧
    (extractTag? address = none ↔
      ∀ tag before, TagAfter address.toList before tag → ¬NoTagSooner address.toList before) ∧
    ∀ before c after, address.toList = before ++ "/tag/".toList ++ c :: after → ¬EndsTag c →
      ∃ tag, extractTag? address = some tag := by
  refine ⟨fun tag => ?_, ?_, fun before c after haddress hc => ?_⟩
  · rw [← findTag?_eq_some_iff, extractTag?, Option.map_eq_some_iff]
    constructor
    · rintro ⟨cs, hcs, rfl⟩
      rwa [String.toList_ofList]
    · intro h
      exact ⟨_, h, String.ofList_toList⟩
  · rw [extractTag?, Option.map_eq_none_iff, Option.eq_none_iff_forall_ne_some]
    simp only [ne_eq, findTag?_eq_some_iff, not_exists, not_and]
  · rw [← Option.ne_none_iff_exists', Ne, extractTag?_eq_none_iff]
    intro hnone
    exact hc (endsTag_iff.mpr (hnone before c after haddress))

/-- A mark with a slash and one with a question mark after it stand before the mark of the tag. -/
theorem leftmost_tag_taken_later :
    let address := "/tag//tag/?/tag/v1?x"
    address.toList = "/tag//tag/?".toList ++ "/tag/".toList ++ 'v' :: "1?x".toList ∧ ¬EndsTag 'v' ∧
      (∃ tag, extractTag? address = some tag) ∧
      ∃ before, TagAfter address.toList before "v1".toList ∧ NoTagSooner address.toList before := by
  intro address
  obtain ⟨hfound, -, hexists⟩ := leftmost_tag_taken address
  have haddress : address.toList =
      "/tag//tag/?".toList ++ "/tag/".toList ++ 'v' :: "1?x".toList := by decide +kernel
  have hv : ¬EndsTag 'v' := by
    rw [endsTag_iff]
    decide
  have htag : extractTag? address = some "v1" := by decide +kernel
  exact ⟨haddress, hv, hexists _ _ _ haddress hv, (hfound "v1").mp htag⟩

end ModuleCatalog.Release
