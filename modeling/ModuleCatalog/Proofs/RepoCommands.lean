import ModuleCatalog.CommandLine.Run
import ModuleCatalog.Proofs.SourceEdits
import Std.Data.String.ToNat

/-!
What a command on the source list comes to. It is the edit of the list that the command asks for,
and the address that the edit removes or replaces is the one that the list shows at the position.
-/
namespace ModuleCatalog

namespace Sources

/-! ## What an edit does to the list -/

section Operations

variable {s s' : Sources} {index : Nat} {url new : String}

theorem eq_trim_of_checked (h : checked new = .ok url) : url = Text.trim new := by
  simp only [checked] at h
  split at h
  · cases h
  · split at h
    · exact (Except.ok.inj h).symm
    · cases h

theorem exists_split {urls : List String} (h : urls[index]? = some url) :
    ∃ pre post, urls = pre ++ url :: post ∧ pre.length = index := by
  obtain ⟨hlt, rfl⟩ := List.getElem?_eq_some_iff.mp h
  obtain ⟨pre, post, hurls, hlength, -⟩ :
      ∃ pre post, urls = pre ++ urls[index] :: post ∧ pre.length = index ∧
        urls.set index "" = pre ++ "" :: post := List.exists_of_set hlt
  exact ⟨pre, post, hurls, hlength⟩

theorem remove_eq_ok (h : s.remove index = .ok (url, s')) :
    ∃ pre post, s.urls = pre ++ url :: post ∧ pre.length = index ∧
      s' = { s with urls := pre ++ post } := by
  rw [remove] at h
  cases hi : s.urls[index]? with
  | none =>
    rw [hi] at h
    cases h
  | some found =>
    rw [hi] at h
    by_cases hlast : s.urls.length = 1
    · simp [hlast] at h
    · obtain ⟨rfl, rfl⟩ : found = url ∧ { s with urls := s.urls.eraseIdx index } = s' := by
        simpa [hlast] using h
      obtain ⟨pre, post, hurls, rfl⟩ := exists_split hi
      refine ⟨pre, post, hurls, rfl, ?_⟩
      rw [hurls, List.eraseIdx_append_of_length_le (Nat.le_refl _), Nat.sub_self]
      rfl

theorem replace_eq_ok (h : s.replace index new = .ok s') :
    ∃ pre url post, s.urls = pre ++ url :: post ∧ pre.length = index ∧
      s' = { s with urls := pre ++ Text.trim new :: post } := by
  rw [replace] at h
  cases hchecked : checked new with
  | error fault =>
    rw [hchecked] at h
    cases h
  | ok added =>
    obtain rfl : added = Text.trim new := eq_trim_of_checked hchecked
    rw [hchecked] at h
    by_cases hdouble : Text.trim new ∈ s.urls.eraseIdx index
    · simp [hdouble] at h
    · by_cases hlt : index < s.urls.length
      · obtain rfl : { s with urls := s.urls.set index (Text.trim new) } = s' := by
          simpa [hdouble, hlt] using h
        obtain ⟨pre, post, hurls, hlength, hset⟩ := List.exists_of_set hlt
        exact ⟨pre, s.urls[index], post, hurls, hlength, by rw [hset]⟩
      · simp [hdouble, hlt] at h

variable {answer : Option String}

/-- What is removed is the address at the index, and all others stay in their order. -/
theorem Edit.exists_of_run_remove (h : (Edit.remove index).run s = (.ok answer, s')) :
    ∃ pre url post, answer = some url ∧ s.urls = pre ++ url :: post ∧ pre.length = index ∧
      s' = { s with urls := pre ++ post } := by
  rw [Edit.run_remove] at h
  cases hremove : s.remove index with
  | error fault =>
    rw [hremove] at h
    cases congrArg Prod.fst h
  | ok removed =>
    obtain ⟨url, after⟩ := removed
    rw [hremove] at h
    obtain ⟨rfl, rfl⟩ : some url = answer ∧ after = s' := by simpa using h
    obtain ⟨pre, post, hurls, hlength, hafter⟩ := remove_eq_ok hremove
    exact ⟨pre, url, post, rfl, hurls, hlength, hafter⟩

/-- What is replaced is the address at the index, and all others stay where they are. -/
theorem Edit.exists_of_run_replace (h : (Edit.replace index new).run s = (.ok answer, s')) :
    ∃ pre url post, s.urls = pre ++ url :: post ∧ pre.length = index ∧
      s' = { s with urls := pre ++ Text.trim new :: post } := by
  rw [Edit.run_replace] at h
  cases hreplace : s.replace index new with
  | error fault =>
    rw [hreplace] at h
    cases congrArg Prod.fst h
  | ok after =>
    rw [hreplace] at h
    obtain rfl : after = s' := congrArg Prod.snd h
    exact replace_eq_ok hreplace

end Operations

end Sources

namespace CommandLine

open Sources (Edit)

/-- The edit of the list that a command asks for; positions start at one. The command that lists and
a command on position zero ask for none. -/
def RepoCommand.edit? : RepoCommand → Option Edit
  | .list => none
  | .add url => some (.add url)
  | .edit 0 _ => none
  | .edit (index + 1) url => some (.replace index url)
  | .remove 0 => none
  | .remove (index + 1) => some (.remove index)
  | .reset => some .reset
  | .nonFree enabled => some (.setNonFree enabled)

theorem RepoCommand.ne_list {command : RepoCommand} {e : Edit} (h : command.edit? = some e) :
    command ≠ .list := by
  rintro rfl
  cases h

def listOf (s : Sources) : String :=
  Table.render .left ["#", "URL"] (sourceRows s) ++ "\n"

/-- What a command may come to, and under which guard. -/
inductive Changed (s : Sources) (command : RepoCommand) :
    Except String (Sources × String) → Prop where
  | listed (lists : command = .list) : Changed s command (.ok (s, listOf s))
  | accepted {e : Edit} {answer : Option String} {after : Sources} {output : String}
      (asked : command.edit? = some e) (performed : e.run s = (.ok answer, after))
      (reported : ∀ url, answer = some url → output = "Removed repository " ++ url ++ "\n") :
      Changed s command (.ok (after, output))
  | refused {e : Edit} {fault : SourceFault} (asked : command.edit? = some e)
      (performed : e.run s = (.error fault, s)) : Changed s command (.error (refusal fault))
  | noPosition (asked : command.edit? = none) (edits : command ≠ .list) :
      Changed s command (.error "Repository positions start at 1")

theorem changed_spec (s : Sources) (command : RepoCommand) :
    Changed s command (changed s command) := by
  cases command with
  | list => exact .listed rfl
  | add url =>
    have hrun := Edit.run_add s url
    rw [changed]
    cases hadd : s.add url with
    | error fault =>
      rw [hadd] at hrun
      exact .refused rfl hrun
    | ok after =>
      rw [hadd] at hrun
      exact .accepted rfl hrun nofun
  | edit position url =>
    cases position with
    | zero => exact .noPosition rfl nofun
    | succ index =>
      have hrun := Edit.run_replace s index url
      rw [changed, indexOf, if_neg (Nat.succ_ne_zero index), Nat.add_sub_cancel]
      cases hreplace : s.replace index url with
      | error fault =>
        rw [hreplace] at hrun
        simp only [hreplace]
        exact .refused rfl hrun
      | ok after =>
        rw [hreplace] at hrun
        simp only [hreplace]
        exact .accepted rfl hrun nofun
  | remove position =>
    cases position with
    | zero => exact .noPosition rfl nofun
    | succ index =>
      have hrun := Edit.run_remove s index
      rw [changed, indexOf, if_neg (Nat.succ_ne_zero index), Nat.add_sub_cancel]
      cases hremove : s.remove index with
      | error fault =>
        rw [hremove] at hrun
        simp only [hremove]
        exact .refused rfl hrun
      | ok removed =>
        rw [hremove] at hrun
        simp only [hremove]
        refine .accepted rfl hrun ?_
        rintro url ⟨⟩
        rfl
  | reset =>
    have hrun : Edit.reset.run s = (.ok none, s.reset) := rfl
    exact .accepted rfl hrun nofun
  | nonFree enabled =>
    have hrun : (Edit.setNonFree enabled).run s = (.ok none, s.setNonFree enabled) := rfl
    exact .accepted rfl hrun nofun

/-! ## What the list shows -/

theorem mem_sourceRows {s : Sources} {row : List String} :
    row ∈ sourceRows s ↔
      (∃ (index : Nat) (url : String), s.urls[index]? = some url ∧ row = [toString (index + 1), url]) ∨
        s.includeNonFree = true ∧ row = ["non-free", nonFreeCatalogUrl] := by
  rw [sourceRows]
  generalize hnumbered : s.urls.zipIdx.map _ = numbered
  have hmem : row ∈ numbered ↔ ∃ (index : Nat) (url : String), s.urls[index]? = some url ∧
      row = [toString (index + 1), url] := by
    simp only [← hnumbered, List.mem_map, Prod.exists, List.mk_mem_zipIdx_iff_getElem?]
    constructor
    · rintro ⟨url, index, hurl, rfl⟩
      exact ⟨index, url, hurl, rfl⟩
    · rintro ⟨index, url, hurl, rfl⟩
      exact ⟨url, index, hurl, rfl⟩
  by_cases hswitch : s.includeNonFree = true
  · simp [hswitch, hmem]
  · simp [hswitch, hmem]

theorem not_mem_toString {c : Char} (h : c.isDigit = false) (n : Nat) : c ∉ (toString n).toList := by
  intro hmem
  change c ∈ (Nat.repr n).toList at hmem
  rw [Nat.toList_repr] at hmem
  have hdigit := Nat.isDigit_of_mem_toDigits (by decide) (by decide) hmem
  rw [h] at hdigit
  cases hdigit

/-- The label of the non-free catalog is not a position. -/
theorem nonFree_ne_toString (n : Nat) : "non-free" ≠ toString n := by
  intro h
  apply not_mem_toString (show Char.isDigit '-' = false by decide) n
  rw [← h]
  decide

/-- The list shows an address at a position: it has one row with the label, and the address stands
in it. -/
def ShowsAt (s : Sources) (position : Nat) (url : String) : Prop :=
  ∀ row, row ∈ sourceRows s ∧ row.head? = some (toString position) ↔ row = [toString position, url]

theorem showsAt_of_split {s : Sources} {pre post : List String} {url : String}
    (h : s.urls = pre ++ url :: post) : ShowsAt s (pre.length + 1) url := by
  have hat : s.urls[pre.length]? = some url := by
    rw [h, List.getElem?_append_right (Nat.le_refl _), Nat.sub_self]
    rfl
  intro row
  constructor
  · rintro ⟨hrow, hhead⟩
    rcases mem_sourceRows.mp hrow with ⟨index, other, hother, rfl⟩ | ⟨-, rfl⟩
    · have hindex : index = pre.length := by
        have hlabels : (index + 1).repr = (pre.length + 1).repr := Option.some.inj hhead
        exact Nat.succ.inj (Nat.repr_injective hlabels)
      subst hindex
      obtain rfl : other = url := Option.some.inj (hother.symm.trans hat)
      rfl
    · exact absurd (Option.some.inj hhead) (nonFree_ne_toString _)
  · rintro rfl
    exact ⟨mem_sourceRows.mpr (.inl ⟨_, url, hat, rfl⟩), rfl⟩

end CommandLine

end ModuleCatalog
