import ModuleCatalog.Proofs.PathNames
import ModuleCatalog.Sources.File

/-!
A file that can be written once can be written again, with whatever source list. Saving makes the
directories on the way to the file, which stay there, and puts the file where no directory is.
-/
namespace ModuleCatalog

namespace FileTree

variable {t t' made : FileTree} {dir : Path} {names : List String} {name : String}
  {obstacle : Option Obstacle} {b : Bool}

/-- Every directory of the first tree is one of the second. -/
def KeepsDirectories (t t' : FileTree) : Prop :=
  ∀ q, t.isDirectory q = true → t'.isDirectory q = true

theorem KeepsDirectories.trans {t'' : FileTree} (h : KeepsDirectories t t')
    (h' : KeepsDirectories t' t'') : KeepsDirectories t t'' :=
  fun q hq => h' q (h q hq)

theorem isDirectory_iff {q : Path} : t.isDirectory q = true ↔ t.get? q = some .directory := by
  rw [isDirectory]
  split
  · next hq => simp [hq]
  · next hq => simpa using hq

theorem isGiven_of_get?_eq_none {p : Path} (h : t.get? p = none) : Path.isGiven p = false := by
  apply isGiven_of_not_isDirectory (t := t)
  rw [isDirectory, h]

theorem isDirectory_put_directory {p : Path} (h : t.get? p = none) :
    (t.put p .directory).isDirectory p = true :=
  isDirectory_iff.mpr (get?_put_self t p _ (isGiven_of_get?_eq_none h))

theorem keepsDirectories_put {p : Path} (h : t.get? p = none) :
    KeepsDirectories t (t.put p .directory) := by
  intro q hq
  by_cases hpq : p = q
  · subst hpq
    exact isDirectory_put_directory h
  · rw [isDirectory_iff, get?_put_of_ne t _ hpq]
    exact isDirectory_iff.mp hq

/-- What making a directory comes to at a name: it leads to a directory, or one is made. -/
inductive Passes (t : FileTree) (p : Path) : FileTree → Prop where
  | there (directory : t.get? p = some .directory) : Passes t p t
  | made (free : t.get? p = none) : Passes t p (t.put p .directory)

theorem Passes.keepsDirectories {p : Path} (h : Passes t p t') : KeepsDirectories t t' := by
  cases h with
  | there directory => exact fun q hq => hq
  | made free => exact keepsDirectories_put free

theorem Passes.isDirectory {p : Path} (h : Passes t p t') : t'.isDirectory p = true := by
  cases h with
  | there directory => exact isDirectory_iff.mpr directory
  | made free => exact isDirectory_put_directory free

/-- A directory whose path is a single name is there, or is made, in the working directory. -/
theorem Passes.makeDirectories (h : Passes t [name] t') (hnames : Path.namesOf name = [name])
    (hname : name ≠ ".." ∧ Path.start name = []) (hlong : Path.isName name = true)
    (htext : Path.holdsNul name = false ∧ Path.isShort name = true) :
    t.makeDirectories name = (t', none) := by
  rw [FileTree.makeDirectories, htext.1, htext.2, hname.2, hnames, makeFrom, if_neg hname.1, hlong]
  cases h with
  | there directory => simp [directory, makeFrom]
  | made free => simp [free, makeFrom]

/-- At a name that does not lead up, the way is barred or passed. -/
theorem makeFrom_barred_or_passes (b : Bool) (hname : name ≠ "..") :
    (∃ obstacle, t.makeFrom b dir (name :: names) = (t, some obstacle)) ∧
        ¬(name.utf8ByteSize ≤ 255 ∧ t.file? (dir ++ [name]) = none) ∨
      (name.utf8ByteSize ≤ 255 ∧ t.file? (dir ++ [name]) = none) ∧
        ∃ b' between, Passes t (dir ++ [name]) between ∧
          t.makeFrom b dir (name :: names) = between.makeFrom b' (dir ++ [name]) names := by
  rw [makeFrom, if_neg hname, ← Path.isName_iff]
  cases Path.isName name with
  | false => exact .inl ⟨⟨_, rfl⟩, fun h => Bool.false_ne_true h.1⟩
  | true =>
    cases hget : t.get? (dir ++ [name]) with
    | none =>
      simp only [file?, hget, and_self]
      exact .inr ⟨trivial, true, _, .made hget, rfl⟩
    | some node =>
      cases node with
      | directory =>
        simp only [file?, hget, and_self]
        exact .inr ⟨trivial, b, t, .there hget, rfl⟩
      | file bytes =>
        simp only [file?, hget, reduceCtorEq, and_false, not_false_eq_true, and_true]
        exact .inl ⟨_, rfl⟩

/-- Directories are made as far as the names lead up or pass. -/
theorem makeFrom_cons (hname : name ≠ "..")
    (h : t.makeFrom b dir (name :: names) = (made, none)) :
    Path.isName name = true ∧ ∃ b' between, Passes t (dir ++ [name]) between ∧
      between.makeFrom b' (dir ++ [name]) names = (made, none) := by
  obtain ⟨⟨other, hbarred⟩, -⟩ | ⟨hfree, b', between, hpasses, hrest⟩ :=
    @makeFrom_barred_or_passes t dir names name b hname
  · rw [hbarred] at h
    cases congrArg Prod.snd h
  · exact ⟨Path.isName_iff.mpr hfree.1, b', between, hpasses, hrest ▸ h⟩

theorem keepsDirectories_makeFrom (h : t.makeFrom b dir names = (made, obstacle)) :
    KeepsDirectories t made := by
  induction names generalizing t b dir with
  | nil =>
    obtain rfl : t = made := congrArg Prod.fst h
    exact fun q hq => hq
  | cons name names ih =>
    by_cases hname : name = ".."
    · rw [makeFrom, if_pos hname] at h
      exact ih h
    · obtain ⟨⟨other, hbarred⟩, -⟩ | ⟨-, b', between, hpasses, hrest⟩ :=
        @makeFrom_barred_or_passes t dir names name b hname
      · obtain rfl : t = made := congrArg Prod.fst (hbarred.symm.trans h)
        exact fun q hq => hq
      · exact hpasses.keepsDirectories.trans (ih (hrest.symm.trans h))

/-- Where directories were made, making them again finds them all. -/
theorem makeFrom_again (h : t.makeFrom b dir names = (made, none))
    (hkept : KeepsDirectories made t') (b' : Bool) :
    t'.makeFrom b' dir names = (t', none) := by
  induction names generalizing t b dir b' with
  | nil => rfl
  | cons name names ih =>
    by_cases hname : name = ".."
    · rw [makeFrom, if_pos hname] at h ⊢
      exact ih h b'
    · obtain ⟨hlong, c, between, hpasses, hrest⟩ := makeFrom_cons hname h
      have hdirectory : t'.get? (dir ++ [name]) = some .directory := by
        rw [← isDirectory_iff]
        exact (keepsDirectories_makeFrom hrest).trans hkept _ hpasses.isDirectory
      rw [makeFrom, if_neg hname]
      simp only [hlong, hdirectory, Bool.not_true, Bool.false_eq_true, if_false]
      exact ih hrest b'

theorem makeDirectories_again {s : String} (h : t.makeDirectories s = (made, none))
    (hkept : KeepsDirectories made t') : t'.makeDirectories s = (t', none) := by
  rw [makeDirectories] at h ⊢
  split at h
  · cases congrArg Prod.snd h
  · next hnul =>
    split at h
    · cases congrArg Prod.snd h
    · next hshort =>
      rw [if_neg hnul, if_neg hshort]
      exact makeFrom_again h hkept false

/-- Writing a file puts it at the place of no directory, whatever it holds. -/
theorem exists_of_write? {s : String} {bytes : ByteArray} (h : t.write? s bytes = some t') :
    ∃ p, t.isDirectory p = false ∧ t' = t.put p (.file bytes) ∧
      ∀ (other : FileTree) (bytes' : ByteArray),
        (∀ q, other.isDirectory q = t.isDirectory q) →
        other.write? s bytes' = some (other.put p (.file bytes')) := by
  rw [write?] at h
  split at h
  · cases h
  · next hfile =>
    cases hresolve : t.resolve? s with
    | none =>
      rw [hresolve] at h
      cases h
    | some p =>
      rw [hresolve] at h
      by_cases hdirectory : t.isDirectory p = true
      · simp [hdirectory] at h
      · have hfree : t.isDirectory p = false := Bool.eq_false_iff.mpr hdirectory
        refine ⟨p, hfree, ?_, ?_⟩
        · simpa [hfree] using h.symm
        · intro other bytes' hsame
          have hother : other.resolve? s = some p := by
            rw [← hresolve, resolve?, resolve?, follow_congr hsame]
          simp [write?, hfile, hother, hsame p, hfree]

end FileTree

namespace Sources

variable {files : FileTree} {path : String}

/-- The file at a path can be written: some source list can be saved there. -/
def Writable (files : FileTree) (path : String) : Prop :=
  ∃ s, (save files path s).error = none

/-- Saving in two steps: the directories around the file, and the file itself. -/
theorem save_eq {s : Sources} {made after : FileTree}
    (hmade : files.makeDirectories (Path.parentOf path) = (made, none))
    (hwrite : made.write? path s.render.toUTF8 = some after) :
    save files path s = ⟨after, none⟩ := by
  simp only [save, hmade, hwrite]

theorem exists_of_save {s : Sources} (h : (save files path s).error = none) :
    ∃ made, files.makeDirectories (Path.parentOf path) = (made, none) ∧
      made.write? path s.render.toUTF8 = some (save files path s).files := by
  rcases hmade : files.makeDirectories (Path.parentOf path) with ⟨made, _ | obstacle⟩
  · refine ⟨made, rfl, ?_⟩
    cases hwrite : made.write? path s.render.toUTF8 with
    | none => simp only [save, hmade, hwrite, reduceCtorEq] at h
    | some after => rw [save_eq hmade hwrite]
  · simp [save, hmade] at h

/-- A file that can be written can be written with any source list. -/
theorem Writable.save (h : Writable files path) (s : Sources) :
    (save files path s).error = none := by
  obtain ⟨other, hother⟩ := h
  obtain ⟨made, hmade, hwrite⟩ := exists_of_save hother
  obtain ⟨p, -, -, hall⟩ := FileTree.exists_of_write? hwrite
  rw [save_eq hmade (hall made s.render.toUTF8 fun _ => rfl)]

/-- A file that was written can be written again. -/
theorem Writable.after_save (h : Writable files path) (s : Sources) :
    Writable (Sources.save files path s).files path := by
  obtain ⟨made, hmade, hwrite⟩ := exists_of_save (h.save s)
  obtain ⟨p, hfree, hafter, hall⟩ := FileTree.exists_of_write? hwrite
  have hsame (q : Path) : (Sources.save files path s).files.isDirectory q = made.isDirectory q := by
    rw [hafter]
    exact FileTree.isDirectory_put_file hfree q
  have hagain : (Sources.save files path s).files.makeDirectories (Path.parentOf path) =
      ((Sources.save files path s).files, none) := by
    apply FileTree.makeDirectories_again hmade
    intro q hq
    rw [hsame q]
    exact hq
  refine ⟨s, ?_⟩
  rw [save_eq hagain (hall _ s.render.toUTF8 hsame)]

end Sources

end ModuleCatalog
