import ModuleCatalog.Proofs.PathNames
import ModuleCatalog.Proofs.WritableFiles

/-!
What making directories and writing a file do to a tree. Directories are made exactly where nothing
bars the way to them, they leave every file as it is, and afterwards the way leads to its place; a
file that is written stands at its place and leaves all others. So the tree is a system whose calls
succeed or change no file.
-/
namespace ModuleCatalog.FileTree

variable {t t' made : FileTree} {dir p q : Path} {names : List String} {name : String} {b : Bool}

/-- Says that nothing bars the way along some names from a directory: the system takes each name,
and no file stands where one leads. -/
def WayFree (t : FileTree) (dir : Path) (names : List String) : Prop :=
  ∀ before name after, names = before ++ name :: after → name ≠ ".." →
    name.utf8ByteSize ≤ 255 ∧ t.file? (Path.walk dir before ++ [name]) = none

theorem WayFree.congr (h : ∀ q, t'.file? q = t.file? q) :
    WayFree t' dir names ↔ WayFree t dir names := by
  simp only [WayFree, h]

theorem wayFree_cons :
    WayFree t dir (name :: names) ↔
      (name ≠ ".." → name.utf8ByteSize ≤ 255 ∧ t.file? (dir ++ [name]) = none) ∧
        WayFree t (Path.walk dir [name]) names := by
  constructor
  · intro h
    refine ⟨h [] name names rfl, fun before other after hnames => ?_⟩
    exact h (name :: before) other after (congrArg (name :: ·) hnames)
  · rintro ⟨hname, hrest⟩ before other after hnames
    cases before with
    | nil =>
      obtain ⟨rfl, -⟩ := List.cons.inj hnames
      exact hname
    | cons first before =>
      obtain ⟨rfl, hothers⟩ := List.cons.inj hnames
      exact hrest before other after hothers

section Files

theorem file?_put_directory (h : t.get? p = none) (q : Path) :
    (t.put p .directory).file? q = t.file? q := by
  by_cases hpq : p = q
  · subst hpq
    rw [file?, file?, get?_put_self t p _ (isGiven_of_get?_eq_none h), h]
  · rw [file?, file?, get?_put_of_ne t _ hpq]

theorem Passes.file?_eq (h : Passes t p t') (q : Path) : t'.file? q = t.file? q := by
  cases h with
  | there directory => rfl
  | made free => exact file?_put_directory free q

/-- Making directories leaves every file as it is, also where it fails. -/
theorem file?_makeFrom (b : Bool) (dir : Path) (names : List String) (q : Path) :
    (t.makeFrom b dir names).1.file? q = t.file? q := by
  induction names generalizing t b dir with
  | nil => rfl
  | cons name names ih =>
    by_cases hname : name = ".."
    · rw [makeFrom, if_pos hname]
      exact ih b (Path.up dir)
    · obtain ⟨⟨obstacle, h⟩, -⟩ | ⟨-, b', between, hpasses, h⟩ := makeFrom_barred_or_passes b hname
      · rw [h]
      · rw [h, ih, hpasses.file?_eq]

theorem file?_makeDirectories (s : String) (q : Path) :
    (t.makeDirectories s).1.file? q = t.file? q := by
  rw [makeDirectories]
  split
  · rfl
  split
  · rfl
  · exact file?_makeFrom _ _ _ q

theorem makeFrom_eq_none_iff : (t.makeFrom b dir names).2 = none ↔ WayFree t dir names := by
  induction names generalizing t b dir with
  | nil =>
    refine iff_of_true rfl fun before name after h => ?_
    simp at h
  | cons name names ih =>
    rw [wayFree_cons]
    by_cases hname : name = ".."
    · rw [makeFrom, if_pos hname, ih, hname]
      exact (and_iff_right fun h => absurd rfl h).symm
    · have hwalk : Path.walk dir [name] = dir ++ [name] := Path.walk_cons_of_ne dir hname []
      rw [hwalk]
      obtain ⟨⟨obstacle, h⟩, hbarred⟩ | ⟨hfree, b', between, hpasses, h⟩ :=
        makeFrom_barred_or_passes b hname
      · rw [h]
        exact iff_of_false (Option.some_ne_none _) fun hway => hbarred (hway.1 hname)
      · rw [h, ih, WayFree.congr hpasses.file?_eq]
        exact (and_iff_right fun _ => hfree).symm

theorem makeDirectories_eq_none_iff {s : String} :
    (t.makeDirectories s).2 = none ↔
      '\x00' ∉ s.toList ∧ s.utf8ByteSize < 4096 ∧ WayFree t (Path.start s) (Path.namesOf s) := by
  rw [makeDirectories, ← Path.holdsNul_iff, ← Path.isShort_iff, ← makeFrom_eq_none_iff (b := false)]
  cases Path.holdsNul s with
  | true => simp
  | false => cases Path.isShort s <;> simp

theorem file?_put_file {bytes : ByteArray} (h : t.isDirectory p = false) (q : Path) :
    (t.put p (.file bytes)).file? q = if q = p then some bytes else t.file? q := by
  split
  · next hqp => rw [hqp, file?, get?_put_self t p _ (isGiven_of_not_isDirectory h)]
  · next hqp => rw [file?, file?, get?_put_of_ne t _ (Ne.symm hqp)]

end Files

section Places

/-- Says that a place and all those on the way to it are directories. -/
def Rooted (t : FileTree) (dir : Path) : Prop :=
  ∀ q, q <+: dir → t.isDirectory q = true

theorem isDirectory_of_isGiven (h : Path.isGiven p = true) : t.isDirectory p = true := by
  rw [isDirectory, get?, if_pos h]

theorem Rooted.concat (h : Rooted t dir) (hname : t.isDirectory (dir ++ [name]) = true) :
    Rooted t (dir ++ [name]) := by
  intro q hq
  rcases List.prefix_concat_iff.mp hq with rfl | hq
  · exact hname
  · exact h q hq

theorem rooted_start (s : String) : Rooted t (Path.start s) := by
  have hempty : Rooted t [] := by
    intro q hq
    obtain rfl := List.prefix_nil.mp hq
    exact isDirectory_of_isGiven rfl
  rw [Path.start]
  split
  · exact hempty.concat (isDirectory_of_isGiven rfl)
  · exact hempty

theorem Rooted.up (h : Rooted t dir) : Rooted t (Path.up dir) := by
  rw [Path.up]
  split
  · exact h
  split
  · next habove =>
    apply h.concat
    apply isDirectory_of_isGiven
    simp only [Path.isAbove, List.all_eq_true, beq_iff_eq] at habove
    simp only [Path.isGiven, Path.isAbove, List.all_append, Bool.or_eq_true, Bool.and_eq_true,
      List.all_eq_true, beq_iff_eq]
    exact .inr ⟨habove, by simp⟩
  · exact fun q hq => h q (hq.trans (List.dropLast_prefix dir))

theorem Rooted.mono (h : Rooted t dir) (hkept : KeepsDirectories t t') : Rooted t' dir :=
  fun q hq => hkept q (h q hq)

/-- Once directories are made, the way along their names leads to its place. -/
theorem follow_makeFrom (hrooted : Rooted t dir) (h : t.makeFrom b dir names = (made, none)) :
    made.follow dir names = some (Path.walk dir names) ∧ Rooted made (Path.walk dir names) := by
  have hdir : made.isDirectory dir = true :=
    keepsDirectories_makeFrom h dir (hrooted dir List.prefix_rfl)
  induction names generalizing t b dir with
  | nil =>
    obtain rfl : t = made := congrArg Prod.fst h
    exact ⟨rfl, hrooted⟩
  | cons name names ih =>
    rw [follow, hdir]
    by_cases hname : name = ".."
    · rw [makeFrom, if_pos hname] at h
      rw [hname, Path.walk_cons_up]
      simp only [Bool.not_true, Bool.false_eq_true, if_false, if_true]
      exact ih hrooted.up h (keepsDirectories_makeFrom h _ (hrooted.up _ List.prefix_rfl))
    · obtain ⟨hlong, b', between, hpasses, hrest⟩ := makeFrom_cons hname h
      have hnext : Rooted between (dir ++ [name]) :=
        (hrooted.mono hpasses.keepsDirectories).concat hpasses.isDirectory
      rw [Path.walk_cons_of_ne dir hname]
      simp only [Bool.not_true, Bool.false_eq_true, if_false, hname, hlong, if_true]
      exact ih hnext hrest (keepsDirectories_makeFrom hrest _ hpasses.isDirectory)

theorem follow_append (t : FileTree) (dir : Path) (names names' : List String) :
    t.follow dir (names ++ names') = (t.follow dir names).bind fun p => t.follow p names' := by
  induction names generalizing dir with
  | nil => rfl
  | cons name names ih =>
    rw [List.cons_append, follow, follow]
    split
    · rfl
    split
    · exact ih _
    split
    · exact ih _
    · rfl

theorem follow_makeDirectories {s : String} (h : t.makeDirectories s = (made, none)) :
    made.follow (Path.start s) (Path.namesOf s) = some (Path.placeOf s) ∧
      Rooted made (Path.placeOf s) := by
  rw [makeDirectories] at h
  split at h
  · cases congrArg Prod.snd h
  split at h
  · cases congrArg Prod.snd h
  · exact follow_makeFrom (rooted_start s) h

theorem write?_eq_some_iff {s : String} {bytes : ByteArray} :
    t.write? s bytes = some t' ↔
      Path.meansDirectory s = false ∧ ∃ p, t.resolve? s = some p ∧ t.isDirectory p = false ∧
        t' = t.put p (.file bytes) := by
  rw [write?]
  cases hdirectory : Path.meansDirectory s with
  | true => simp
  | false =>
    cases hresolve : t.resolve? s with
    | none => simp
    | some p =>
      simp only [Bool.false_eq_true, if_false, true_and, Option.some.injEq, exists_eq_left']
      cases t.isDirectory p with
      | true => simp
      | false =>
        simp only [Bool.false_eq_true, if_false, true_and, Option.some.injEq]
        exact eq_comm

end Places

section System

theorem makeDirectories_system_iff {s : String} :
    system.makeDirectories t s = (made, true) ↔ t.makeDirectories s = (made, none) := by
  simp [system, Prod.ext_iff]

/-- A way through a tree is one through every tree that keeps its directories. -/
theorem follow_of_keepsDirectories (hkept : KeepsDirectories t t')
    (h : t.follow dir names = some p) : t'.follow dir names = some p := by
  induction names generalizing dir with
  | nil => exact h
  | cons name names ih =>
    rw [follow] at h ⊢
    cases hdir : t.isDirectory dir with
    | false => simp [hdir] at h
    | true =>
      simp only [hdir, hkept _ hdir, Bool.not_true, Bool.false_eq_true, if_false] at h ⊢
      by_cases hname : name = ".."
      · rw [if_pos hname] at h ⊢
        exact ih h
      · rw [if_neg hname] at h ⊢
        cases hlong : Path.isName name with
        | false => simp [hlong] at h
        | true =>
          simp only [hlong, if_true] at h ⊢
          exact ih h

theorem resolve?_of_keepsDirectories {s : String} (hkept : KeepsDirectories t t')
    (h : t.resolve? s = some p) : t'.resolve? s = some p := by
  rw [resolve?] at h ⊢
  split at h
  · cases h
  · next htext =>
    rw [if_neg htext]
    exact follow_of_keepsDirectories hkept h

theorem fileAt?_eq_some_iff {s : String} :
    t.fileAt? s = some p ↔
      Path.meansDirectory s = false ∧ t.resolve? s = some p ∧ (t.file? p).isSome = true := by
  rw [fileAt?]
  cases Path.meansDirectory s with
  | true => simp
  | false => simp [Option.filter_eq_some_iff]

/-- The paths to files lead to them still where directories are kept and files are not removed. -/
theorem fileAt?_mono {s : String} (hkept : KeepsDirectories t t')
    (hfiles : ∀ q, (t.file? q).isSome = true → (t'.file? q).isSome = true)
    (h : t.fileAt? s = some p) : t'.fileAt? s = some p := by
  rw [fileAt?_eq_some_iff] at h ⊢
  exact ⟨h.1, resolve?_of_keepsDirectories hkept h.2.1, hfiles p h.2.2⟩

theorem keepsDirectories_makeDirectories (s : String) :
    KeepsDirectories t (t.makeDirectories s).1 := by
  rw [makeDirectories]
  split
  · exact fun q hq => hq
  split
  · exact fun q hq => hq
  · exact keepsDirectories_makeFrom rfl

/-- Where a file is written, it stands afterwards, and all else is as it was. -/
theorem replaces_write? {s : String} {bytes : ByteArray} (h : t.write? s bytes = some t') :
    system.Replaces t t' s bytes := by
  obtain ⟨hfile, p, hresolve, hplace, rfl⟩ := write?_eq_some_iff.mp h
  have hkept : KeepsDirectories t (t.put p (.file bytes)) := by
    intro q hq
    rw [isDirectory_put_file hplace, hq]
  have hwritten : (t.put p (.file bytes)).file? p = some bytes := by
    rw [file?_put_file hplace, if_pos rfl]
  refine ⟨⟨p, ?_, hwritten, fun q hq => ?_⟩, fun other q => fileAt?_mono hkept fun r hr => ?_⟩
  · rw [system, fileAt?_eq_some_iff]
    exact ⟨hfile, resolve?_of_keepsDirectories hkept hresolve, by rw [hwritten, Option.isSome_some]⟩
  · exact (file?_put_file hplace q).trans (if_neg hq)
  · rw [file?_put_file hplace]
    split
    · rfl
    · exact hr

theorem allOrNothing_system : system.AllOrNothing where
  makeDirectories t s := by
    have hfiles (q : Path) := file?_makeDirectories (t := t) s q
    refine ⟨hfiles, fun path q => fileAt?_mono (keepsDirectories_makeDirectories s) fun r hr => ?_⟩
    exact (congrArg Option.isSome (hfiles r)).trans hr
  write? t s bytes after := replaces_write?

end System

end ModuleCatalog.FileTree
