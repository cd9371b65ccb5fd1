import ModuleCatalog.Proofs.TrimmedText
import ModuleCatalog.Sources.Editing
import ModuleCatalog.Sources.File
import Mathlib.Data.List.Nodup
import Mathlib.Data.List.Perm.Basic

/-!
What editing keeps true of a source list: it is never empty, its addresses are trimmed, no address
is doubled, and what is refused leaves no trace.
-/
namespace ModuleCatalog.Sources

/-- A source list as it is used: there are addresses, and each of them is trimmed and not blank. -/
structure Sound (s : Sources) : Prop where
  nonempty : s.urls ≠ []
  trimmed : ∀ url ∈ s.urls, url ≠ "" ∧ Text.trim url = url

/-- An address that an edit may put into the list. -/
structure Accepted (url : String) : Prop where
  ne_empty : url ≠ ""
  trimmed : Text.trim url = url
  web : hasWebScheme url = true

theorem accepted_of_checked {url url' : String} (h : checked url = .ok url') : Accepted url' := by
  simp only [checked] at h
  split at h
  · cases h
  · next hne =>
    split at h
    · next hweb =>
      cases h
      exact ⟨by simpa using hne, Text.trim_trim url, hweb⟩
    · cases h

theorem sound_default : Sound default := by
  refine ⟨List.cons_ne_nil _ _, fun url h => ?_⟩
  obtain rfl := List.mem_singleton.mp h
  have hhead : defaultCatalogUrl.toList.head? = some 'h' := by decide +kernel
  have hlast : defaultCatalogUrl.toList.getLast? = some 'n' := by decide +kernel
  refine ⟨by decide +kernel, ?_⟩
  rw [Text.trim_eq_self_iff, Text.trimChars_eq_self_iff, hhead, hlast]
  constructor
  · rintro c ⟨⟩
    rfl
  · rintro c ⟨⟩
    rfl

/-- What may become of a source list in an edit, and under which guard. -/
inductive Edit.Effect (s : Sources) : Except SourceFault (Option String) → Sources → Prop where
  | added {url : String} (accepted : Accepted url) (fresh : url ∉ s.urls) :
      Effect s (.ok none) { s with urls := s.urls ++ [url] }
  | replaced {index : Nat} {url : String} (accepted : Accepted url)
      (fresh : url ∉ s.urls.eraseIdx index) (inRange : index < s.urls.length) :
      Effect s (.ok none) { s with urls := s.urls.set index url }
  | removed {index : Nat} {url : String} (at_index : s.urls[index]? = some url)
      (others : s.urls.length ≠ 1) :
      Effect s (.ok (some url)) { s with urls := s.urls.eraseIdx index }
  | reset : Effect s (.ok none) s.reset
  | switched (enabled : Bool) : Effect s (.ok none) (s.setNonFree enabled)
  | refused (fault : SourceFault) : Effect s (.error fault) s

theorem Edit.effect_run (e : Edit) (s : Sources) : Effect s (e.run s).1 (e.run s).2 := by
  cases e with
  | add url =>
    rw [run, program, perform_bind, perform_addUrl, Sources.add]
    cases hc : checked url with
    | error fault => exact .refused fault
    | ok url' =>
      by_cases hm : url' ∈ s.urls
      · simpa [hm] using Effect.refused (.duplicate url')
      · simpa [hm] using Effect.added (accepted_of_checked hc) hm
  | replace index url =>
    rw [run, program, perform_bind, perform_replaceUrl, Sources.replace]
    cases hc : checked url with
    | error fault => exact .refused fault
    | ok url' =>
      by_cases hm : url' ∈ s.urls.eraseIdx index
      · simpa [hm] using Effect.refused (.duplicate url')
      · by_cases hi : index < s.urls.length
        · simpa [hm, hi] using Effect.replaced (accepted_of_checked hc) hm hi
        · simpa [hm, hi] using Effect.refused (.noSuchIndex index)
  | remove index =>
    rw [run, program, perform_bind, perform_removeUrl, Sources.remove]
    cases hi : s.urls[index]? with
    | none => exact .refused (.noSuchIndex index)
    | some url =>
      by_cases hl : s.urls.length = 1
      · simpa [hl] using Effect.refused .lastSource
      · simpa [hl] using Effect.removed hi hl
  | reset => exact .reset
  | setNonFree enabled => exact .switched enabled

/-- What holds of a source list and is kept by every effect holds after any edits. -/
theorem Edit.runAll_invariant {P : Sources → Prop}
    (heffect : ∀ s answer s', P s → Effect s answer s' → P s') {s : Sources} (h : P s)
    (edits : List Edit) : P (runAll edits s) := by
  induction edits using List.reverseRecOn with
  | nil => exact h
  | append_singleton edits e ih =>
    rw [runAll_concat]
    exact heffect _ _ _ ih (effect_run e _)

section Effect

variable {s s' : Sources} {answer : Except SourceFault (Option String)}

theorem Sound.effect (h : Sound s) (he : Edit.Effect s answer s') : Sound s' := by
  cases he with
  | @added url accepted fresh =>
    refine ⟨by simp, fun u hu => ?_⟩
    rcases List.mem_append.mp hu with hu | hu
    · exact h.trimmed u hu
    · obtain rfl := List.mem_singleton.mp hu
      exact ⟨accepted.ne_empty, accepted.trimmed⟩
  | @replaced index url accepted fresh inRange =>
    refine ⟨by simpa using h.nonempty, fun u hu => ?_⟩
    rcases List.mem_or_eq_of_mem_set hu with hu | rfl
    · exact h.trimmed u hu
    · exact ⟨accepted.ne_empty, accepted.trimmed⟩
  | @removed index url at_index others =>
    have hlt : index < s.urls.length := (List.getElem?_eq_some_iff.mp at_index).1
    refine ⟨?_, fun u hu => h.trimmed u (List.mem_of_mem_eraseIdx hu)⟩
    rw [← List.length_pos_iff, List.length_eraseIdx_of_lt hlt]
    omega
  | reset => exact ⟨sound_default.nonempty, sound_default.trimmed⟩
  | switched enabled => exact ⟨h.nonempty, h.trimmed⟩
  | refused fault => exact h

/-- The addresses after an edit were there before, or in the default list, or name a web resource.
-/
theorem Edit.Effect.mem (he : Effect s answer s') {url : String} (hu : url ∈ s'.urls) :
    url ∈ s.urls ∨ url ∈ default.urls ∨ hasWebScheme url = true := by
  cases he with
  | @added added accepted fresh =>
    rcases List.mem_append.mp hu with hu | hu
    · exact .inl hu
    · obtain rfl := List.mem_singleton.mp hu
      exact .inr (.inr accepted.web)
  | @replaced index added accepted fresh inRange =>
    rcases List.mem_or_eq_of_mem_set hu with hu | rfl
    · exact .inl hu
    · exact .inr (.inr accepted.web)
  | removed => exact .inl (List.mem_of_mem_eraseIdx hu)
  | reset => exact .inr (.inl hu)
  | switched => exact .inl hu
  | refused => exact .inl hu

/-- No address occurs more often than before, unless it is the only one of its kind. -/
theorem Edit.Effect.count_le (he : Effect s answer s') (url : String) :
    s'.urls.count url ≤ max 1 (s.urls.count url) := by
  cases he with
  | @added added accepted fresh =>
    rw [List.count_append, List.count_singleton]
    split
    · next heq =>
      obtain rfl : added = url := by simpa using heq
      rw [List.count_eq_zero_of_not_mem fresh]
      omega
    · omega
  | @replaced index added accepted fresh inRange =>
    -- The check for doubles leaves out the address that is replaced, so only the others count.
    have hperm := List.set_perm_cons_eraseIdx inRange added
    rw [hperm.count_eq, List.count_cons]
    have hle := (List.eraseIdx_sublist s.urls index).count_le url
    split
    · next heq =>
      obtain rfl : added = url := by simpa using heq
      rw [List.count_eq_zero_of_not_mem fresh]
      omega
    · omega
  | @removed index removed at_index others =>
    exact Nat.le_trans ((List.eraseIdx_sublist s.urls index).count_le url) (Nat.le_max_right _ _)
  | reset =>
    have hle : default.urls.count url ≤ 1 := List.nodup_iff_count_le_one.mp (List.nodup_singleton _) url
    exact Nat.le_trans hle (Nat.le_max_left _ _)
  | switched => exact Nat.le_max_right _ _
  | refused => exact Nat.le_max_right _ _

theorem Edit.Effect.nodup (he : Effect s answer s') (h : s.urls.Nodup) : s'.urls.Nodup := by
  rw [List.nodup_iff_count_le_one] at h ⊢
  intro url
  have hcount := he.count_le url
  have hbefore := h url
  omega

/-- An edit that is refused leaves the source list as it was. -/
theorem Edit.Effect.eq_of_error {fault : SourceFault} (he : Effect s (.error fault) s') : s' = s := by
  cases he with
  | refused => rfl

end Effect

/-- Loading a sound list again would change nothing. -/
theorem Sound.normalize_eq {s : Sources} (h : Sound s) : s.normalize = s := by
  have hurls : normalizeUrls s.urls = s.urls := by
    have hmap : s.urls.map Text.trim = s.urls := by
      conv_rhs => rw [← List.map_id s.urls]
      exact List.map_congr_left fun url hu => (h.trimmed url hu).2
    rw [normalizeUrls, hmap, List.filter_eq_self]
    intro url hu
    simpa using (h.trimmed url hu).1
  rw [normalize, hurls]
  split
  · next hnil => exact absurd hnil h.nonempty
  · rfl

theorem Sound.effectiveUrls_ne_nil {s : Sources} (h : Sound s) : s.effectiveUrls ≠ [] := by
  unfold effectiveUrls
  split
  · exact List.append_ne_nil_of_left_ne_nil h.nonempty _
  · exact h.nonempty

theorem sound_normalize (s : Sources) : Sound s.normalize := by
  have htrimmed (url : String) (hu : url ∈ normalizeUrls s.urls) : url ≠ "" ∧ Text.trim url = url := by
    obtain ⟨hm, hne⟩ := List.mem_filter.mp hu
    obtain ⟨u, -, rfl⟩ := List.mem_map.mp hm
    exact ⟨by simpa using hne, Text.trim_trim u⟩
  unfold normalize
  split
  · exact ⟨sound_default.nonempty, sound_default.trimmed⟩
  · next hne => exact ⟨hne, htrimmed⟩

/-- The source lists that editing starts from: the default one, and those that were loaded. -/
def Initial (s : Sources) : Prop :=
  s = default ∨ ∃ files path, load files path = .ok s

theorem Initial.sound {s : Sources} (h : Initial s) : Sound s := by
  rcases h with rfl | ⟨files, path, h⟩
  · exact sound_default
  · unfold load at h
    split at h
    · cases h
      exact sound_normalize _
    · cases h
    · split at h
      · cases h
      · split at h
        · cases h
        · cases h
          exact sound_normalize _

theorem sound_runAll {s : Sources} (h : Initial s) (edits : List Edit) :
    Sound (Edit.runAll edits s) :=
  Edit.runAll_invariant (fun _ _ _ hs he => hs.effect he) h.sound edits

/-- Whatever is loaded and however it is edited, the source list stays in use: it is never empty,
each address is trimmed and not blank, so that loading would leave the list as it is, and is a web
address unless it was loaded or belongs to the default list; no edit doubles an address, and an edit
that is refused changes nothing. -/
theorem edits_keep_sound (start : Sources) (h : Initial start) (edits : List Edit) :
    let s := Edit.runAll edits start
    s.urls ≠ [] ∧
    (∀ url ∈ s.urls, url ≠ "" ∧ Text.trim url = url) ∧
    s.normalize = s ∧
    s.effectiveUrls ≠ [] ∧
    (∀ url ∈ s.urls, url ∈ start.urls ∨ url ∈ default.urls ∨
      "http://".toList <+: url.toList ∨ "https://".toList <+: url.toList) ∧
    (start.urls.Nodup → s.urls.Nodup) ∧
    ∀ e : Edit,
      (∀ url, (e.run s).2.urls.count url ≤ max 1 (s.urls.count url)) ∧
      ∀ fault, (e.run s).1 = .error fault → (e.run s).2 = s := by
  intro s
  have hsound : Sound s := sound_runAll h edits
  refine ⟨hsound.nonempty, hsound.trimmed, hsound.normalize_eq, hsound.effectiveUrls_ne_nil, ?_, ?_,
    fun e => ⟨(e.effect_run s).count_le, fun fault hfault => ?_⟩⟩
  · have horigin : ∀ url ∈ s.urls, url ∈ start.urls ∨ url ∈ default.urls ∨
        hasWebScheme url = true := by
      refine Edit.runAll_invariant (P := fun s => ∀ url ∈ s.urls,
        url ∈ start.urls ∨ url ∈ default.urls ∨ hasWebScheme url = true) ?_
        (fun url hu => .inl hu) edits
      intro s answer s' hs he url hu
      exact (he.mem hu).elim (hs url) .inr
    intro url hu
    refine (horigin url hu).imp_right (.imp_right fun hweb => ?_)
    simpa [hasWebScheme] using hweb
  · exact fun hnodup =>
      Edit.runAll_invariant (P := fun s => s.urls.Nodup) (fun _ _ _ hs he => he.nodup hs) hnodup edits
  · have he := e.effect_run s
    rw [hfault] at he
    exact he.eq_of_error

/-- The default address gives way to another one, which then cannot be removed or doubled. -/
theorem edits_keep_sound_last_source :
    let edits : List Edit := [.add " https://a.test/m ", .remove 0, .remove 0]
    let s := Edit.runAll edits default
    Initial default ∧ s.urls = ["https://a.test/m"] ∧ s.normalize = s ∧
      (Edit.run (.add "https://a.test/m") s).1 = .error (.duplicate "https://a.test/m") ∧
      (Edit.run (.add "https://a.test/m") s).2 = s := by
  intro edits s
  have hstart : Initial default := .inl rfl
  obtain ⟨-, -, hnormalize, -, -, -, hedit⟩ := edits_keep_sound default hstart edits
  have hrefused : (Edit.run (.add "https://a.test/m") s).1 =
      .error (.duplicate "https://a.test/m") := by
    decide +kernel
  exact ⟨hstart, by decide +kernel, hnormalize, hrefused, (hedit _).2 _ hrefused⟩

end ModuleCatalog.Sources
