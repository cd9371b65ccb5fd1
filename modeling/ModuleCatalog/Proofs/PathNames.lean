import ModuleCatalog.FileTree

/-!
The names in the text of a path, and the place to which they lead. Main results: how a text falls
into pieces (`splitAtEach_eq_cons_iff`, `splitAtEach_append_cons`), and that a path leads to the
same place in every tree in which it leads anywhere (`eq_walk_of_follow`).
-/
namespace ModuleCatalog

namespace Text

variable {sep : Char} {cs piece : List Char} {pieces : List (List Char)}

theorem splitAtEach_cons_self (sep : Char) (cs : List Char) :
    splitAtEach sep (sep :: cs) = [] :: splitAtEach sep cs :=
  if_pos rfl

theorem splitAtEach_cons_of_ne {c : Char} (hc : c ≠ sep) (h : splitAtEach sep cs = piece :: pieces) :
    splitAtEach sep (c :: cs) = (c :: piece) :: pieces := by
  rw [splitAtEach, if_neg hc, h]

theorem splitAtEach_ne_nil (sep : Char) (cs : List Char) : splitAtEach sep cs ≠ [] := by
  cases cs with
  | nil => exact List.cons_ne_nil _ _
  | cons c cs =>
    rw [splitAtEach]
    split
    · exact List.cons_ne_nil _ _
    · split <;> exact List.cons_ne_nil _ _

theorem splitAtEach_of_not_mem (h : sep ∉ cs) : splitAtEach sep cs = [cs] := by
  induction cs with
  | nil => rfl
  | cons c cs ih =>
    obtain ⟨hc, hcs⟩ := List.ne_and_not_mem_of_not_mem_cons h
    exact splitAtEach_cons_of_ne hc.symm (ih hcs)

theorem splitAtEach_append_cons (sep : Char) (before after : List Char) :
    splitAtEach sep (before ++ sep :: after) = splitAtEach sep before ++ splitAtEach sep after := by
  induction before with
  | nil => exact splitAtEach_cons_self sep after
  | cons c before ih =>
    by_cases hc : c = sep
    · subst hc
      rw [List.cons_append, splitAtEach_cons_self, splitAtEach_cons_self, ih, List.cons_append]
    · cases h : splitAtEach sep before with
      | nil => exact absurd h (splitAtEach_ne_nil sep before)
      | cons piece pieces =>
        rw [h, List.cons_append] at ih
        rw [List.cons_append, splitAtEach_cons_of_ne hc ih, splitAtEach_cons_of_ne hc h,
          List.cons_append]

theorem splitAtEach_joined (h : ∀ p ∈ piece :: pieces, sep ∉ p) :
    splitAtEach sep (piece ++ pieces.flatMap (sep :: ·)) = piece :: pieces := by
  induction pieces generalizing piece with
  | nil => simpa using splitAtEach_of_not_mem (h piece List.mem_cons_self)
  | cons p pieces ih =>
    obtain ⟨hpiece, hpieces⟩ := List.forall_mem_cons.mp h
    rw [List.flatMap_cons, List.cons_append, splitAtEach_append_cons,
      splitAtEach_of_not_mem hpiece, ih hpieces, List.singleton_append]

theorem exists_joined (sep : Char) (cs : List Char) :
    ∃ piece pieces, (∀ p ∈ piece :: pieces, sep ∉ p) ∧ cs = piece ++ pieces.flatMap (sep :: ·) := by
  induction cs with
  | nil => exact ⟨[], [], by simp, rfl⟩
  | cons c cs ih =>
    obtain ⟨piece, pieces, hclean, rfl⟩ := ih
    by_cases hc : c = sep
    · subst hc
      exact ⟨[], piece :: pieces, List.forall_mem_cons.mpr ⟨List.not_mem_nil, hclean⟩, rfl⟩
    · obtain ⟨hpiece, hpieces⟩ := List.forall_mem_cons.mp hclean
      have hcons : sep ∉ c :: piece := by simp [Ne.symm hc, hpiece]
      exact ⟨c :: piece, pieces, List.forall_mem_cons.mpr ⟨hcons, hpieces⟩, rfl⟩

/-- The pieces of a text are what stands between its separators. -/
theorem splitAtEach_eq_cons_iff :
    splitAtEach sep cs = piece :: pieces ↔
      (∀ p ∈ piece :: pieces, sep ∉ p) ∧ cs = piece ++ pieces.flatMap (sep :: ·) := by
  constructor
  · intro h
    obtain ⟨first, others, hclean, hcs⟩ := exists_joined sep cs
    rw [hcs, splitAtEach_joined hclean] at h
    obtain ⟨rfl, rfl⟩ := List.cons.inj h
    exact ⟨hclean, hcs⟩
  · rintro ⟨hclean, rfl⟩
    exact splitAtEach_joined hclean

end Text

namespace Path

/-- The place to which names lead from a directory. -/
def walk (dir : Path) (names : List String) : Path :=
  names.foldl (fun dir name => if name = ".." then up dir else dir ++ [name]) dir

/-- The place to which the text of a path leads. -/
def placeOf (s : String) : Path :=
  walk (start s) (namesOf s)

theorem walk_append (dir : Path) (names names' : List String) :
    walk dir (names ++ names') = walk (walk dir names) names' :=
  List.foldl_append

theorem walk_cons_up (dir : Path) (names : List String) :
    walk dir (".." :: names) = walk (up dir) names := rfl

theorem walk_cons_of_ne (dir : Path) {name : String} (h : name ≠ "..") (names : List String) :
    walk dir (name :: names) = walk (dir ++ [name]) names := by
  rw [walk, List.foldl_cons, if_neg h, walk]

theorem isName_iff {name : String} : isName name = true ↔ name.utf8ByteSize ≤ 255 :=
  decide_eq_true_iff

theorem isShort_iff {s : String} : isShort s = true ↔ s.utf8ByteSize < 4096 :=
  decide_eq_true_iff

theorem holdsNul_iff {s : String} : holdsNul s = true ↔ '\x00' ∈ s.toList :=
  List.contains_iff_mem

end Path

/-- The way of a path may be barred, but its place is the same in every tree. -/
theorem FileTree.eq_walk_of_follow {t : FileTree} {dir p : Path} {names : List String}
    (h : t.follow dir names = some p) : p = Path.walk dir names := by
  induction names generalizing dir with
  | nil => exact (Option.some.inj h).symm
  | cons name names ih =>
    rw [follow] at h
    split at h
    · cases h
    split at h
    · next hup =>
      rw [hup, Path.walk_cons_up]
      exact ih h
    · next hup =>
      split at h
      · rw [Path.walk_cons_of_ne dir hup]
        exact ih h
      · cases h

end ModuleCatalog
