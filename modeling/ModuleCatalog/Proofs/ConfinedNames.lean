import Mathlib.Data.List.Induction
import ModuleCatalog.Download.Save
import ModuleCatalog.Proofs.PathNames

/-!
Why a download stays in its directory. What is left of a proposed file name is one component, which
leads neither back nor anywhere but into the directory; the names that are proposed for entries
always have one.
-/
namespace ModuleCatalog.Download

/-- A name under which something can stand in a directory. -/
structure IsComponent (name : String) : Prop where
  ne_empty : name ≠ ""
  no_slash : '/' ∉ name.toList
  ne_dot : name ≠ "."
  ne_up : name ≠ ".."

/-- Says that nothing or a slash stands at the end of a text, so that a component may follow. -/
def OpensComponent (front : List Char) : Prop :=
  front = [] ∨ ∃ before, front = before ++ ['/']

/-- Says that a file name leads to a component: it is what stands after the last slash, not counting
slashes and single dots at the end. -/
def LeadsTo (name last : String) : Prop :=
  IsComponent last ∧ ∃ (front : List Char) (dots : List (List Char)),
    name.toList = front ++ last.toList ++ dots.flatMap ('/' :: ·) ∧ OpensComponent front ∧
      ∀ dot ∈ dots, dot = [] ∨ dot = ['.']

section Names

variable {name last dir : String} {front : List Char}

theorem staysThere_iff {piece : List Char} :
    Path.staysThere piece = true ↔ piece = [] ∨ piece = ['.'] := by
  simp [Path.staysThere]

theorem not_staysThere_iff :
    Path.staysThere last.toList = false ↔ last ≠ "" ∧ last ≠ "." := by
  rw [← Bool.not_eq_true, staysThere_iff, not_or, String.toList_eq_nil_iff, ne_eq, ne_eq,
    ← @String.toList_inj last "."]
  rfl

theorem getLast?_namesOf_eq_some_iff :
    (Path.namesOf name).getLast? = some last ↔
      Path.staysThere last.toList = false ∧ ∃ before dots,
        Path.pieces name = before ++ last.toList :: dots ∧ ∀ dot ∈ dots, Path.staysThere dot = true := by
  rw [Path.namesOf, List.getLast?_map, List.getLast?_filter, Option.map_eq_some_iff]
  constructor
  · rintro ⟨piece, hpiece, rfl⟩
    obtain ⟨hstays, dots, before, hpieces, hdots⟩ := List.find?_eq_some_iff_append.mp hpiece
    rw [String.toList_ofList]
    refine ⟨by simpa using hstays, before.reverse, dots.reverse, ?_, fun dot hdot => ?_⟩
    · rw [← List.reverse_reverse (Path.pieces name), hpieces]
      simp
    · simpa using hdots dot (List.mem_reverse.mp hdot)
  · rintro ⟨hstays, before, dots, hpieces, hdots⟩
    refine ⟨last.toList, List.find?_eq_some_iff_append.mpr ⟨by simp [hstays], dots.reverse,
      before.reverse, by simp [hpieces], fun dot hdot => ?_⟩, String.ofList_toList⟩
    simp [hdots dot (List.mem_reverse.mp hdot)]

/-- A component stands at its place among the pieces of a text. -/
theorem pieces_of_split {dots : List (List Char)} (hlast : '/' ∉ last.toList)
    (hdots : ∀ dot ∈ dots, dot = [] ∨ dot = ['.']) (hfront : OpensComponent front)
    (hname : name.toList = front ++ last.toList ++ dots.flatMap ('/' :: ·)) :
    ∃ before, Path.pieces name = before ++ last.toList :: dots := by
  have hclean : ∀ piece ∈ last.toList :: dots, '/' ∉ piece := by
    refine List.forall_mem_cons.mpr ⟨hlast, fun dot hdot => ?_⟩
    rcases hdots dot hdot with rfl | rfl <;> decide
  have hrest := Text.splitAtEach_joined hclean
  rw [Path.pieces, hname]
  rcases hfront with rfl | ⟨before, rfl⟩
  · exact ⟨[], hrest⟩
  · refine ⟨Text.splitAtEach '/' before, ?_⟩
    rw [List.append_assoc, List.append_assoc, List.singleton_append, Text.splitAtEach_append_cons,
      hrest]

/-- A piece with others around it stands after nothing or a slash. -/
theorem split_of_pieces {before dots : List (List Char)}
    (h : Path.pieces name = before ++ last.toList :: dots) :
    '/' ∉ last.toList ∧ ∃ front,
      name.toList = front ++ last.toList ++ dots.flatMap ('/' :: ·) ∧ OpensComponent front := by
  cases before with
  | nil =>
    obtain ⟨hclean, hname⟩ := Text.splitAtEach_eq_cons_iff.mp h
    exact ⟨hclean _ List.mem_cons_self, [], hname, .inl rfl⟩
  | cons piece before =>
    obtain ⟨hclean, hname⟩ := Text.splitAtEach_eq_cons_iff.mp h
    refine ⟨hclean _ (by simp), piece ++ before.flatMap ('/' :: ·) ++ ['/'], ?_, .inr ⟨_, rfl⟩⟩
    rw [hname]
    simp

theorem baseName?_eq_some_iff : baseName? name = some last ↔ LeadsTo name last := by
  have hlast : baseName? name = some last ↔
      (Path.namesOf name).getLast? = some last ∧ last ≠ ".." := by
    rw [baseName?]
    cases (Path.namesOf name).getLast? with
    | none => simp
    | some other =>
      by_cases hup : other = ".."
      · simp only [hup, if_pos, reduceCtorEq, Option.some.injEq, false_iff, not_and, not_not]
        exact Eq.symm
      · simp only [hup, if_false, Option.some.injEq, iff_self_and]
        rintro rfl
        exact hup
  rw [hlast, getLast?_namesOf_eq_some_iff, not_staysThere_iff]
  simp only [staysThere_iff]
  constructor
  · rintro ⟨⟨⟨hempty, hdot⟩, before, dots, hpieces, hdots⟩, hup⟩
    obtain ⟨hslash, front, hname, hfront⟩ := split_of_pieces hpieces
    exact ⟨⟨hempty, hslash, hdot, hup⟩, front, dots, hname, hfront, hdots⟩
  · rintro ⟨⟨hempty, hslash, hdot, hup⟩, front, dots, hname, hfront, hdots⟩
    obtain ⟨before, hpieces⟩ := pieces_of_split hslash hdots hfront hname
    exact ⟨⟨⟨hempty, hdot⟩, before, dots, hpieces, hdots⟩, hup⟩

theorem LeadsTo.eq {other : String} (h : LeadsTo name last) (h' : LeadsTo name other) :
    last = other := by
  rw [← baseName?_eq_some_iff] at h h'
  exact Option.some.inj (h.symm.trans h')

end Names

section Directory

variable {dir last : String}

theorem exists_of_endsWith_slash (h : dir.endsWith "/" = true) :
    ∃ before, dir.toList = before ++ ['/'] := by
  rw [String.endsWith_eq_endsWith_toSlice, String.Slice.endsWith_string_iff] at h
  obtain ⟨before, hdir⟩ := h
  exact ⟨before, by simpa using hdir.symm⟩

/-- The names among some pieces of a path. -/
def namesAmong (pieces : List (List Char)) : List String :=
  (pieces.filter fun piece => !Path.staysThere piece).map .ofList

theorem namesAmong_append (pieces pieces' : List (List Char)) :
    namesAmong (pieces ++ pieces') = namesAmong pieces ++ namesAmong pieces' := by
  rw [namesAmong, List.filter_append, List.map_append]
  rfl

theorem namesAmong_component (h : IsComponent last) : namesAmong [last.toList] = [last] := by
  have hname : Path.staysThere last.toList = false := not_staysThere_iff.mpr ⟨h.ne_empty, h.ne_dot⟩
  simp [namesAmong, hname]

/-- A component is the last piece of its path in a directory, after the pieces of the directory,
whether that ends in a slash, has none at its end or is empty. -/
theorem pieces_inDirectory (dir : String) (h : IsComponent last) :
    ∃ before, Path.pieces (inDirectory dir last) = before ++ [last.toList] ∧
      namesAmong before = Path.namesOf dir := by
  have hlast : Text.splitAtEach '/' last.toList = [last.toList] :=
    Text.splitAtEach_of_not_mem h.no_slash
  rw [Path.pieces, inDirectory]
  split
  · next hempty =>
    obtain rfl := String.isEmpty_iff.mp hempty
    exact ⟨[], hlast, rfl⟩
  split
  · next hslash =>
    obtain ⟨before, hdir⟩ := exists_of_endsWith_slash hslash
    refine ⟨Text.splitAtEach '/' before, ?_, ?_⟩
    · rw [String.toList_append, hdir, List.append_assoc, List.singleton_append,
        Text.splitAtEach_append_cons, hlast]
    · change _ = namesAmong (Text.splitAtEach '/' dir.toList)
      rw [hdir, Text.splitAtEach_append_cons, namesAmong_append]
      exact (List.append_nil _).symm
  · have htext : (dir ++ "/" ++ last).toList = dir.toList ++ '/' :: last.toList := by simp
    exact ⟨Path.pieces dir, by rw [htext, Text.splitAtEach_append_cons, hlast, Path.pieces], rfl⟩

theorem namesOf_inDirectory (h : IsComponent last) :
    Path.namesOf (inDirectory dir last) = Path.namesOf dir ++ [last] := by
  obtain ⟨before, hpieces, hbefore⟩ := pieces_inDirectory dir h
  change namesAmong (Path.pieces (inDirectory dir last)) = _
  rw [hpieces, namesAmong_append, hbefore, namesAmong_component h]

/-- A component never means the directory itself. -/
theorem meansDirectory_inDirectory (h : IsComponent last) :
    Path.meansDirectory (inDirectory dir last) = false := by
  obtain ⟨before, hpieces, -⟩ := pieces_inDirectory dir h
  have hname : Path.staysThere last.toList = false := not_staysThere_iff.mpr ⟨h.ne_empty, h.ne_dot⟩
  simp [Path.meansDirectory, hpieces, hname]

theorem start_inDirectory (h : IsComponent last) :
    Path.start (inDirectory dir last) = Path.start dir := by
  have hroot : Path.isFromRoot (inDirectory dir last) = Path.isFromRoot dir := by
    rw [inDirectory]
    split
    · next hempty =>
      obtain rfl := String.isEmpty_iff.mp hempty
      have hhead : last.toList.head? ≠ some '/' := by
        intro hhead
        exact h.no_slash (List.mem_of_mem_head? hhead)
      simpa [Path.isFromRoot] using hhead
    · next hdir =>
      have hne : dir.toList ≠ [] := by
        intro hnil
        exact hdir (String.isEmpty_iff.mpr (String.toList_eq_nil_iff.mp hnil))
      obtain ⟨c, cs, hcons⟩ := List.exists_cons_of_ne_nil hne
      split <;> simp [Path.isFromRoot, hcons]
  rw [Path.start, Path.start, hroot]

theorem placeOf_inDirectory (h : IsComponent last) :
    Path.placeOf (inDirectory dir last) = Path.placeOf dir ++ [last] := by
  rw [Path.placeOf, namesOf_inDirectory h, start_inDirectory h, Path.walk_append,
    Path.walk_cons_of_ne _ h.ne_up]
  rfl

/-- Wherever a component leads in a directory, it is right under the place of the directory. -/
theorem resolve?_inDirectory (h : IsComponent last) {files : FileTree} {p : Path}
    (hp : files.resolve? (inDirectory dir last) = some p) : p = Path.placeOf dir ++ [last] := by
  rw [FileTree.resolve?] at hp
  split at hp
  · cases hp
  · rw [← placeOf_inDirectory h]
    exact FileTree.eq_walk_of_follow hp

end Directory

/-- Says that a part of a text is what stands after its last slash, or all of it if it has none. -/
def AfterLastSlash (cs part : List Char) : Prop :=
  '/' ∉ part ∧ ∃ front, cs = front ++ part ∧ OpensComponent front

section FileNames

variable {cs part : List Char}

theorem exists_afterLastSlash (cs : List Char) : ∃ part, AfterLastSlash cs part := by
  induction cs using List.reverseRecOn with
  | nil => exact ⟨[], List.not_mem_nil, [], rfl, .inl rfl⟩
  | append_singleton cs c ih =>
    obtain ⟨part, hpart, front, rfl, hfront⟩ := ih
    by_cases hc : c = '/'
    · subst hc
      exact ⟨[], List.not_mem_nil, _, (List.append_nil _).symm, .inr ⟨_, rfl⟩⟩
    · refine ⟨part ++ [c], ?_, front, List.append_assoc _ _ _, hfront⟩
      simp [hpart, Ne.symm hc]

theorem AfterLastSlash.append (h : AfterLastSlash cs part) {more : List Char} (hmore : '/' ∉ more) :
    AfterLastSlash (cs ++ more) (part ++ more) := by
  obtain ⟨hpart, front, rfl, hfront⟩ := h
  exact ⟨by simp [hpart, hmore], front, List.append_assoc _ _ _, hfront⟩

theorem leadsTo_of_afterLastSlash {name last : String} (h : AfterLastSlash name.toList last.toList)
    (hlast : 2 < last.length) : LeadsTo name last := by
  obtain ⟨hslash, front, hname, hfront⟩ := h
  refine ⟨⟨?_, hslash, ?_, ?_⟩, front, [], by simpa using hname, hfront, by simp⟩
  · rintro rfl
    exact absurd hlast (by decide)
  · rintro rfl
    exact absurd hlast (by decide)
  · rintro rfl
    exact absurd hlast (by decide)

/-- The text of the file name that is proposed for an entry. -/
theorem toList_fileName (e : Entry) :
    e.fileName.toList = (e.name.toList.map fun c => if c = ' ' then '_' else c) ++
      '_' :: ((e.latestVersion.toList.map fun c => if c = '/' then '_' else c) ++ ".zip".toList) := by
  simp [Entry.fileName, Entry.substitute]

/-- Whatever slashes the name of an entry holds, what follows them in its file name is a component,
since the version has none and the ending is long enough. -/
theorem leadsTo_fileName (e : Entry) :
    ∃ last, LeadsTo e.fileName last ∧ AfterLastSlash e.fileName.toList last.toList := by
  let version := e.latestVersion.toList.map fun c => if c = '/' then '_' else c
  let ending := '_' :: (version ++ ".zip".toList)
  have hversion : '/' ∉ version := by
    rw [List.mem_map]
    rintro ⟨c, -, hc⟩
    split at hc
    · cases hc
    · next hne => exact hne hc
  have hending : '/' ∉ ending := by simpa [ending] using hversion
  obtain ⟨part, hpart⟩ := exists_afterLastSlash (e.name.toList.map fun c => if c = ' ' then '_' else c)
  have hlast : (String.ofList (part ++ ending)).toList = part ++ ending := String.toList_ofList
  have hafter : AfterLastSlash e.fileName.toList (String.ofList (part ++ ending)).toList := by
    rw [toList_fileName, hlast]
    exact hpart.append hending
  have hlength : 2 < (String.ofList (part ++ ending)).length := by
    have hzip : ".zip".toList.length = 4 := rfl
    rw [← String.length_toList, hlast, List.length_append, List.length_cons, List.length_append, hzip]
    omega
  exact ⟨_, leadsTo_of_afterLastSlash hafter hlength, hafter⟩

end FileNames

/-- A file name is refused, or it leads to one component, which is put after the names of the
directory and leads right under it in every tree. The file name that is proposed for an entry always
leads to what stands after its last slash. -/
theorem destination_confined (dir : String) :
    (∀ name,
      (∃ last, destination dir name = .ok (inDirectory dir last) ∧ LeadsTo name last ∧
        last ≠ "" ∧ '/' ∉ last.toList ∧ last ≠ "." ∧ last ≠ ".." ∧
        Path.namesOf (inDirectory dir last) = Path.namesOf dir ++ [last] ∧
        ∀ (files : FileTree) (p : Path), files.resolve? (inDirectory dir last) = some p →
          p = Path.placeOf dir ++ [last]) ∨
      destination dir name = .error (.badName name) ∧ ∀ last, ¬LeadsTo name last) ∧
    ∀ e : Entry, ∃ last, destination dir e.fileName = .ok (inDirectory dir last) ∧
      AfterLastSlash
        ((e.name.toList.map fun c => if c = ' ' then '_' else c) ++
          '_' :: ((e.latestVersion.toList.map fun c => if c = '/' then '_' else c) ++ ".zip".toList))
        last.toList := by
  constructor
  · intro name
    cases hname : baseName? name with
    | none =>
      refine .inr ⟨by rw [destination, hname], fun last hlast => ?_⟩
      rw [baseName?_eq_some_iff.mpr hlast] at hname
      cases hname
    | some last =>
      have hleads : LeadsTo name last := baseName?_eq_some_iff.mp hname
      obtain ⟨hempty, hslash, hdot, hup⟩ := hleads.1
      exact .inl ⟨last, by rw [destination, hname], hleads, hempty, hslash, hdot, hup,
        namesOf_inDirectory hleads.1, fun files p => resolve?_inDirectory hleads.1⟩
  · intro e
    obtain ⟨last, hleads, hafter⟩ := leadsTo_fileName e
    refine ⟨last, ?_, toList_fileName e ▸ hafter⟩
    rw [destination, baseName?_eq_some_iff.mpr hleads]

/-- What comes before the last component is dropped, and a name that ends by leading back is
refused. -/
example :
    destination "out" "../../etc/evil.zip/." = .ok "out/evil.zip" ∧
      destination "out" "etc/.." = .error (.badName "etc/..") := by
  decide +kernel

end ModuleCatalog.Download
