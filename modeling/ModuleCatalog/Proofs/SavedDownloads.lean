import ModuleCatalog.Proofs.ConfinedNames
import ModuleCatalog.Proofs.MadeDirectories

/-!
What a download leaves behind, on every system whose calls succeed as a whole or change no file. It
comes to a saved file exactly if a response with its whole body arrives, the file name leads to a
component and the system makes the directory and writes the file, and then that file is all that has
changed; otherwise every file is as it was. In a tree of files what can be written is decided by its
shape (`CanStore`).
-/
namespace ModuleCatalog

/-- Says that a request for an address comes to a response that reports success and whose body is
read to its end. -/
def Http.Delivers (net : Network) (url : String) (body : ByteArray) : Prop :=
  ∃ r, net.get url = some r ∧ 200 ≤ r.status ∧ r.status < 300 ∧ r.body = some body

namespace Download

section Save

variable {State File : Type} {sys : FileSystem State File} {net : Http.Network}
  {files made after : State} {dir last name : String} {body : ByteArray} {o : Order}

theorem receive_eq_ok_iff : receive net o = .ok body ↔ Http.Delivers net o.url body := by
  rw [receive, Http.Delivers]
  cases net.get o.url with
  | none => simp
  | some r =>
    by_cases hstatus : 200 ≤ r.status ∧ r.status < 300
    · cases hbody : r.body <;> simp [Http.isSuccess, hstatus, hbody]
    · have hfailed : Http.isSuccess r.status = false := by
        simpa [Http.isSuccess] using hstatus
      simp only [hfailed, Bool.not_false, if_true, reduceCtorEq, Option.some.injEq,
        exists_eq_left', false_iff]
      exact fun h => hstatus ⟨h.1, h.2.1⟩

theorem eq_of_delivers {body' : ByteArray} (h : Http.Delivers net o.url body)
    (h' : Http.Delivers net o.url body') : body = body' := by
  rw [← receive_eq_ok_iff] at h h'
  exact Except.ok.inj (h.symm.trans h')

/-- Says that a system makes a directory and then writes a body there under a name. -/
def Accepts (sys : FileSystem State File) (files : State) (dir last : String) (body : ByteArray) :
    Prop :=
  ∃ made after, sys.makeDirectories files dir = (made, true) ∧
    sys.write? made (inDirectory dir last) body = some after

/-! A store has four endings. -/

theorem store_badName (h : baseName? name = none) (files : State) (dir : String)
    (body : ByteArray) : store sys files dir name body = ⟨files, .error (.badName name)⟩ := by
  simp only [store, destination, h]

theorem store_noDirectory (h : baseName? name = some last)
    (hmade : sys.makeDirectories files dir = (made, false)) (body : ByteArray) :
    store sys files dir name body = ⟨made, .error (.noDirectory dir)⟩ := by
  simp only [store, destination, h, hmade]

theorem store_unwritable (h : baseName? name = some last)
    (hmade : sys.makeDirectories files dir = (made, true))
    (hwrite : sys.write? made (inDirectory dir last) body = none) :
    store sys files dir name body = ⟨made, .error (.unwritable (inDirectory dir last))⟩ := by
  simp only [store, destination, h, hmade, hwrite]

theorem store_written (h : baseName? name = some last)
    (hmade : sys.makeDirectories files dir = (made, true))
    (hwrite : sys.write? made (inDirectory dir last) body = some after) :
    store sys files dir name body =
      ⟨after, .ok ⟨inDirectory dir last, body.size, Digest.sha256Name body⟩⟩ := by
  simp only [store, destination, h, hmade, hwrite]

/-- What is saved where a file can be written: the file, and a report of it. -/
structure HasSaved (sys : FileSystem State File) (files : State) (dir last : String)
    (body : ByteArray) (saved : Saved State) : Prop where
  artifact : saved.artifact =
    .ok ⟨inDirectory dir last, body.size, "sha256:" ++ Digest.hex (Digest.sha256 body.toList)⟩
  replaces : sys.Replaces files saved.files (inDirectory dir last) body

/-- What is saved where something stands in the way: nothing. -/
structure HasFailed (sys : FileSystem State File) (files : State) (saved : Saved State) : Prop where
  artifact : ∃ error, saved.artifact = .error error
  keeps : sys.Keeps files saved.files

/-- Which of the four endings a store has is decided by the file name and by what the system
accepts. -/
theorem saved_or_failed_store (hsys : sys.AllOrNothing) (files : State) (dir name : String)
    (body : ByteArray) :
    (∃ last, LeadsTo name last ∧ Accepts sys files dir last body ∧
        HasSaved sys files dir last body (store sys files dir name body)) ∨
      (∀ last, LeadsTo name last → ¬Accepts sys files dir last body) ∧
        HasFailed sys files (store sys files dir name body) := by
  cases hname : baseName? name with
  | none =>
    refine .inr ⟨fun last hlast => ?_, ?_⟩
    · rw [baseName?_eq_some_iff.mpr hlast] at hname
      cases hname
    · rw [store_badName hname]
      exact ⟨⟨_, rfl⟩, .rfl⟩
  | some last =>
    have hleads : LeadsTo name last := baseName?_eq_some_iff.mp hname
    have hkept := hsys.makeDirectories files dir
    rcases hmade : sys.makeDirectories files dir with ⟨made, _ | _⟩
    · rw [hmade] at hkept
      refine .inr ⟨fun other hother haccepts => ?_, ?_⟩
      · obtain ⟨made', after, hmade', -⟩ := haccepts
        cases hmade.symm.trans hmade'
      · rw [store_noDirectory hname hmade]
        exact ⟨⟨_, rfl⟩, hkept⟩
    · rw [hmade] at hkept
      cases hwrite : sys.write? made (inDirectory dir last) body with
      | none =>
        refine .inr ⟨fun other hother haccepts => ?_, ?_⟩
        · obtain rfl := hleads.eq hother
          obtain ⟨made', after, hmade', hwrite'⟩ := haccepts
          cases hmade.symm.trans hmade'
          cases hwrite.symm.trans hwrite'
        · rw [store_unwritable hname hmade hwrite]
          exact ⟨⟨_, rfl⟩, hkept⟩
      | some after =>
        refine .inl ⟨last, hleads, ⟨made, after, hmade, hwrite⟩, ?_⟩
        rw [store_written hname hmade hwrite]
        exact ⟨rfl, hkept.replaces (hsys.write? _ _ _ _ hwrite)⟩

theorem saved_or_failed (hsys : sys.AllOrNothing) (net : Http.Network) (files : State) (dir : String)
    (o : Order) :
    (∃ body last, Http.Delivers net o.url body ∧ LeadsTo o.fileName last ∧
        Accepts sys files dir last body ∧
        HasSaved sys files dir last body (save sys net files dir o)) ∨
      (∀ body last, Http.Delivers net o.url body → LeadsTo o.fileName last →
        ¬Accepts sys files dir last body) ∧ HasFailed sys files (save sys net files dir o) := by
  rw [save]
  cases hreceived : receive net o with
  | error error =>
    refine .inr ⟨fun body last hbody => ?_, ⟨_, rfl⟩, .rfl⟩
    rw [receive_eq_ok_iff.mpr hbody] at hreceived
    cases hreceived
  | ok body =>
    have hbody : Http.Delivers net o.url body := receive_eq_ok_iff.mp hreceived
    obtain ⟨last, hleads, haccepts, hsaved⟩ | ⟨hbarred, hfailed⟩ :=
      saved_or_failed_store hsys files dir o.fileName body
    · exact .inl ⟨body, last, hbody, hleads, haccepts, hsaved⟩
    · refine .inr ⟨fun body' last hbody' => ?_, hfailed⟩
      obtain rfl := eq_of_delivers hbody hbody'
      exact hbarred last

/-- Where no body arrives or no name is left, the system is not called at all. -/
theorem files_save_of_not (h : ∀ body last, Http.Delivers net o.url body → ¬LeadsTo o.fileName last) :
    (save sys net files dir o).files = files := by
  rw [save]
  cases hreceived : receive net o with
  | error error => rfl
  | ok body =>
    cases hname : baseName? o.fileName with
    | none => simp only [store_badName hname]
    | some last =>
      exact absurd (baseName?_eq_some_iff.mp hname) (h body last (receive_eq_ok_iff.mp hreceived))

/-- On every system whose calls succeed as a whole or change no file, a download comes to a saved
file exactly if a request for its address delivers a body, the file name leads to a component, and
the system makes the directory and writes the file. Then the file to which the path of the component
leads holds the body and every other file is as before, and the size and the digest that are
reported are those of the body. If a download fails, every file is as before, and without a body or
a component no call is made. -/
theorem save_all_or_nothing (hsys : sys.AllOrNothing) (net : Http.Network) (files : State)
    (dir : String) (o : Order) :
    let saved := save sys net files dir o
    ((∃ a, saved.artifact = .ok a) ↔ ∃ body last, Http.Delivers net o.url body ∧
      LeadsTo o.fileName last ∧ Accepts sys files dir last body) ∧
    (∀ body last, Http.Delivers net o.url body → LeadsTo o.fileName last →
      Accepts sys files dir last body →
        saved.artifact = .ok
          ⟨inDirectory dir last, body.size, "sha256:" ++ Digest.hex (Digest.sha256 body.toList)⟩ ∧
        sys.Replaces files saved.files (inDirectory dir last) body) ∧
    (∀ error, saved.artifact = .error error → sys.Keeps files saved.files) ∧
    ((∀ body last, Http.Delivers net o.url body → ¬LeadsTo o.fileName last) →
      saved.files = files) := by
  intro saved
  obtain ⟨body, last, hbody, hleads, haccepts, hsaved⟩ | ⟨hbarred, ⟨error, herror⟩, hkept⟩ :=
    saved_or_failed hsys net files dir o
  · refine ⟨iff_of_true ⟨_, hsaved.artifact⟩ ⟨body, last, hbody, hleads, haccepts⟩, ?_, ?_,
      files_save_of_not⟩
    · intro body' last' hbody' hleads' _
      obtain rfl := eq_of_delivers hbody hbody'
      obtain rfl := hleads.eq hleads'
      exact ⟨hsaved.artifact, hsaved.replaces⟩
    · intro error herror
      cases hsaved.artifact.symm.trans herror
  · refine ⟨iff_of_false ?_ ?_, fun body last hbody hleads haccepts => ?_, fun _ _ => hkept,
      files_save_of_not⟩
    · rintro ⟨a, ha⟩
      cases herror.symm.trans ha
    · rintro ⟨body, last, hbody, hleads, haccepts⟩
      exact hbarred body last hbody hleads haccepts
    · exact absurd haccepts (hbarred body last hbody hleads)

/-- A host on which a file has moved; the library follows the redirect. -/
def movedHost : Http.Network where
  get url :=
    if url = "http://h.test/m.zip" then some ⟨200, none, some "abc".toUTF8, some "abc"⟩ else none
  getDirect url :=
    if url = "http://h.test/m.zip" then some ⟨302, some "/new/m.zip", some .empty, some ""⟩ else none

/-- A tree in which the path of a download is a link. -/
def linkedTree : FileSystem FileTree Path :=
  FileTree.system.linked fun path => if path = "out/M_1.zip" then "kept.zip" else path

/-- A download that is sent elsewhere puts its body in the file to which its path is a link; where
the same write is refused, that file is as it was. -/
theorem save_all_or_nothing_linked :
    let o : Order := ⟨"M", "http://h.test/m.zip", "../../M_1.zip/."⟩
    let files := (FileTree.empty.put ["out"] .directory).put ["kept.zip"] (.file .empty)
    let guardedTree := linkedTree.guarded fun _ => true
    let saved := save linkedTree movedHost files "out" o
    let refused := save guardedTree movedHost files "out" o
    linkedTree.AllOrNothing ∧ guardedTree.AllOrNothing ∧
      Http.Delivers movedHost o.url "abc".toUTF8 ∧ LeadsTo o.fileName "M_1.zip" ∧
      Accepts linkedTree files "out" "M_1.zip" "abc".toUTF8 ∧
      saved.artifact = .ok ⟨"out/M_1.zip", 3,
        "sha256:ba7816bf8f01cfea414140de5dae2223b00361a396177a9cb410ff61f20015ad"⟩ ∧
      saved.files.file? ["kept.zip"] = some "abc".toUTF8 ∧
      (∃ error, refused.artifact = .error error) ∧
      refused.files.file? ["kept.zip"] = some .empty := by
  intro o files guardedTree saved refused
  have hlinked : linkedTree.AllOrNothing := FileTree.allOrNothing_system.linked _
  have hguarded : guardedTree.AllOrNothing := hlinked.guarded _
  have hbody : Http.Delivers movedHost o.url "abc".toUTF8 :=
    ⟨_, rfl, by decide, by decide, rfl⟩
  have hname : LeadsTo o.fileName "M_1.zip" := baseName?_eq_some_iff.mp (by decide +kernel)
  have hpath : inDirectory "out" "M_1.zip" = "out/M_1.zip" := by decide +kernel
  have hold : files.get? ["kept.zip"] = some (.file .empty) := FileTree.get?_put_self _ _ _ rfl
  have hkept : files.file? ["kept.zip"] = some .empty := by
    rw [FileTree.file?, hold]
  have hmade : linkedTree.makeDirectories files "out" = (files, true) := by
    have hout : files.get? ["out"] = some .directory := by
      rw [FileTree.get?_put_of_ne _ _ (by decide), FileTree.get?_put_self _ _ _ rfl]
    exact FileTree.makeDirectories_system_iff.mpr ((FileTree.Passes.there hout).makeDirectories
      (by decide +kernel) (by decide +kernel) (by decide +kernel) (by decide +kernel))
  have hresolve : files.resolve? "kept.zip" = some ["kept.zip"] := by decide +kernel
  have hat : linkedTree.fileAt? files "out/M_1.zip" = some ["kept.zip"] := by
    change files.fileAt? "kept.zip" = some ["kept.zip"]
    exact FileTree.fileAt?_eq_some_iff.mpr
      ⟨by decide +kernel, hresolve, by rw [hkept, Option.isSome_some]⟩
  have haccepts : Accepts linkedTree files "out" "M_1.zip" "abc".toUTF8 := by
    refine ⟨files, files.put ["kept.zip"] (.file "abc".toUTF8), hmade, ?_⟩
    rw [hpath]
    change files.write? "kept.zip" _ = _
    refine FileTree.write?_eq_some_iff.mpr ⟨by decide +kernel, _, hresolve, ?_, rfl⟩
    rw [FileTree.isDirectory, hold]
  obtain ⟨-, hsaved, -, -⟩ := save_all_or_nothing hlinked movedHost files "out" o
  obtain ⟨hartifact, hreplaced⟩ := hsaved _ _ hbody hname haccepts
  obtain ⟨hiff, -, hfailed, -⟩ := save_all_or_nothing hguarded movedHost files "out" o
  obtain ⟨error, herror⟩ : ∃ error, refused.artifact = .error error := by
    cases hcase : refused.artifact with
    | error error => exact ⟨error, rfl⟩
    | ok a =>
      obtain ⟨body, last, -, -, made, after, -, hwrite⟩ := hiff.mp ⟨a, hcase⟩
      cases hwrite
  refine ⟨hlinked, hguarded, hbody, hname, haccepts, ?_, ?_, ⟨error, herror⟩, ?_⟩
  · have hdigest : "sha256:" ++ Digest.hex (Digest.sha256 "abc".toUTF8.toList) =
        "sha256:ba7816bf8f01cfea414140de5dae2223b00361a396177a9cb410ff61f20015ad" := by
      decide +kernel
    have hsize : "abc".toUTF8.size = 3 := by decide +kernel
    rw [hartifact, hdigest, hsize, hpath]
  · rw [hpath] at hreplaced
    obtain ⟨f, hf, hbytes, -⟩ := hreplaced.written
    obtain rfl := Option.some.inj (hf.symm.trans (hreplaced.fileAt? _ _ hat))
    have hread : linkedTree.bytes? = FileTree.file? := rfl
    rw [← hread]
    exact hbytes
  · have hread : guardedTree.bytes? = FileTree.file? := rfl
    rw [← hread, (hfailed error herror).bytes?, hread, hkept]

end Save

section Tree

variable {files made after : FileTree} {dir last name : String} {body : ByteArray}

/-- Says that a file can be written under a name into a directory: the system takes the path and its
names, no file stands on the way to the directory, and once that is made no directory stands where
the file has to be. -/
structure CanStore (files : FileTree) (dir last : String) : Prop where
  no_nul : '\x00' ∉ (inDirectory dir last).toList
  short : (inDirectory dir last).utf8ByteSize < 4096
  fits : last.utf8ByteSize ≤ 255
  way_free : files.WayFree (Path.start dir) (Path.namesOf dir)
  place_free : (files.makeDirectories dir).1.isDirectory (Path.placeOf dir ++ [last]) = false

theorem exists_inDirectory_eq_append (dir last : String) :
    ∃ more, inDirectory dir last = dir ++ more := by
  rw [inDirectory]
  split
  · next hempty =>
    obtain rfl := String.isEmpty_iff.mp hempty
    exact ⟨last, String.empty_append.symm⟩
  split
  · exact ⟨last, rfl⟩
  · exact ⟨"/" ++ last, String.append_assoc⟩

/-- Once the directory is made, the path of a component leads under it. -/
theorem resolve?_inDirectory_iff (hlast : IsComponent last)
    (hmade : files.makeDirectories dir = (made, none)) {p : Path} :
    made.resolve? (inDirectory dir last) = some p ↔
      '\x00' ∉ (inDirectory dir last).toList ∧ (inDirectory dir last).utf8ByteSize < 4096 ∧
        last.utf8ByteSize ≤ 255 ∧ p = Path.placeOf dir ++ [last] := by
  obtain ⟨hfollow, hrooted⟩ := FileTree.follow_makeDirectories hmade
  have hdirectory : made.isDirectory (Path.placeOf dir) = true := hrooted _ List.prefix_rfl
  have hempty : (inDirectory dir last).isEmpty = false := by
    rw [← Bool.not_eq_true, String.isEmpty_iff]
    intro h
    have hnames : Path.namesOf (inDirectory dir last) = _ := namesOf_inDirectory hlast
    rw [h] at hnames
    simp [Path.namesOf, Path.pieces, Text.splitAtEach, Path.staysThere] at hnames
  have hfollowed : made.follow (Path.placeOf dir) [last] = some p ↔
      last.utf8ByteSize ≤ 255 ∧ p = Path.placeOf dir ++ [last] := by
    rw [← Path.isName_iff]
    cases hname : Path.isName last with
    | true =>
      simp only [FileTree.follow, hdirectory, hlast.ne_up, hname, Bool.not_true, Bool.false_eq_true,
        if_false, if_true, Option.some.injEq, true_and]
      exact eq_comm
    | false => simp [FileTree.follow, hdirectory, hlast.ne_up, hname]
  rw [FileTree.resolve?, namesOf_inDirectory hlast, start_inDirectory hlast, FileTree.follow_append,
    hfollow, Option.bind_some, ← Path.holdsNul_iff, ← Path.isShort_iff, ← hfollowed, hempty]
  cases Path.holdsNul (inDirectory dir last) with
  | true => simp
  | false => cases Path.isShort (inDirectory dir last) <;> simp

theorem write?_inDirectory_iff (hlast : IsComponent last)
    (hmade : files.makeDirectories dir = (made, none)) (body : ByteArray) :
    made.write? (inDirectory dir last) body = some after ↔
      CanStore files dir last ∧ after = made.put (Path.placeOf dir ++ [last]) (.file body) := by
  have hway : files.WayFree (Path.start dir) (Path.namesOf dir) :=
    (FileTree.makeDirectories_eq_none_iff.mp (congrArg Prod.snd hmade)).2.2
  simp only [FileTree.write?_eq_some_iff, meansDirectory_inDirectory hlast, true_and,
    resolve?_inDirectory_iff hlast hmade]
  constructor
  · rintro ⟨p, ⟨hnul, hshort, hfits, rfl⟩, hplace, rfl⟩
    exact ⟨⟨hnul, hshort, hfits, hway, by rw [hmade]; exact hplace⟩, rfl⟩
  · rintro ⟨⟨hnul, hshort, hfits, -, hplace⟩, rfl⟩
    rw [hmade] at hplace
    exact ⟨_, ⟨hnul, hshort, hfits, rfl⟩, hplace, rfl⟩

/-- What can be stored has a directory that can be made. -/
theorem CanStore.exists_made (h : CanStore files dir last) :
    ∃ made, files.makeDirectories dir = (made, none) := by
  obtain ⟨more, hmore⟩ := exists_inDirectory_eq_append dir last
  have hnul : '\x00' ∉ dir.toList := by
    intro hdir
    apply h.no_nul
    rw [hmore, String.toList_append]
    exact List.mem_append_left _ hdir
  have hshort : dir.utf8ByteSize < 4096 := by
    have hwhole := h.short
    rw [hmore, String.utf8ByteSize_append] at hwhole
    omega
  have hnone := FileTree.makeDirectories_eq_none_iff.mpr ⟨hnul, hshort, h.way_free⟩
  exact ⟨_, Prod.ext rfl hnone⟩

/-- A tree accepts a file exactly where its shape lets one stand. -/
theorem accepts_system_iff (hlast : IsComponent last) :
    Accepts FileTree.system files dir last body ↔ CanStore files dir last := by
  constructor
  · rintro ⟨made, after, hmade, hwrite⟩
    have hmade := FileTree.makeDirectories_system_iff.mp hmade
    exact ((write?_inDirectory_iff hlast hmade body).mp hwrite).1
  · intro hcan
    obtain ⟨made, hmade⟩ := hcan.exists_made
    exact ⟨made, _, FileTree.makeDirectories_system_iff.mpr hmade,
      (write?_inDirectory_iff hlast hmade body).mpr ⟨hcan, rfl⟩⟩

end Tree

end Download

end ModuleCatalog
