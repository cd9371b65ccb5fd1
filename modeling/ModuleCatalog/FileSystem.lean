/-!
The calls to a file system that a download makes. A call succeeds or fails as the system pleases,
for permissions, a full disk or whatever else, and two paths may lead to one file, as links do; what
holds of every system is only that a call succeeds as a whole or changes no file.
-/
namespace ModuleCatalog

/-- A system with its states and the files in them: making a directory and those on the way to it,
which can fail halfway; writing a whole file, which can be refused; the file to which a path leads;
and the bytes of a file that is there. -/
structure FileSystem (State File : Type) where
  makeDirectories : State → String → State × Bool
  write? : State → String → ByteArray → Option State
  fileAt? : State → String → Option File
  bytes? : State → File → Option ByteArray

namespace FileSystem

variable {State File : Type} (sys : FileSystem State File)

/-- Says that every file is there as it was, under the paths that led to it. -/
structure Keeps (before after : State) : Prop where
  bytes? : ∀ f, sys.bytes? after f = sys.bytes? before f
  fileAt? : ∀ path f, sys.fileAt? before path = some f → sys.fileAt? after path = some f

/-- Says that the file to which a path leads holds the bytes, and every other file is as it was; the
paths that led to a file lead to it still, so that a file that was there is the one written. -/
structure Replaces (before after : State) (path : String) (bytes : ByteArray) : Prop where
  written : ∃ f, sys.fileAt? after path = some f ∧ sys.bytes? after f = some bytes ∧
    ∀ g, g ≠ f → sys.bytes? after g = sys.bytes? before g
  fileAt? : ∀ other g, sys.fileAt? before other = some g → sys.fileAt? after other = some g

/-- What is known of the calls: making directories changes no file, also where it fails, and a write
that succeeds has replaced the whole file and nothing else. A write that is refused leads to no
other state. -/
structure AllOrNothing : Prop where
  makeDirectories : ∀ s dir, sys.Keeps s (sys.makeDirectories s dir).1
  write? : ∀ s path bytes after, sys.write? s path bytes = some after →
    sys.Replaces s after path bytes

/-- The system in which some paths are links: what is read and written under a path is what its
target leads to. -/
def linked (target : String → String) : FileSystem State File where
  makeDirectories := sys.makeDirectories
  write? s path := sys.write? s (target path)
  fileAt? s path := sys.fileAt? s (target path)
  bytes? := sys.bytes?

/-- The system that refuses to write under some paths. -/
def guarded (refuses : String → Bool) : FileSystem State File where
  makeDirectories := sys.makeDirectories
  write? s path bytes := if refuses path then none else sys.write? s path bytes
  fileAt? := sys.fileAt?
  bytes? := sys.bytes?

variable {sys}

theorem AllOrNothing.linked (h : sys.AllOrNothing) (target : String → String) :
    (sys.linked target).AllOrNothing where
  makeDirectories s dir :=
    have hkept := h.makeDirectories s dir
    ⟨hkept.bytes?, fun path => hkept.fileAt? (target path)⟩
  write? s path bytes after hwrite :=
    have hreplaced := h.write? s (target path) bytes after hwrite
    ⟨hreplaced.written, fun other => hreplaced.fileAt? (target other)⟩

theorem AllOrNothing.guarded (h : sys.AllOrNothing) (refuses : String → Bool) :
    (sys.guarded refuses).AllOrNothing where
  makeDirectories s dir :=
    have hkept := h.makeDirectories s dir
    ⟨hkept.bytes?, hkept.fileAt?⟩
  write? s path bytes after hwrite := by
    have hpassed : sys.write? s path bytes = some after := by
      simp only [FileSystem.guarded] at hwrite
      split at hwrite
      · cases hwrite
      · exact hwrite
    have hreplaced := h.write? s path bytes after hpassed
    exact ⟨hreplaced.written, hreplaced.fileAt?⟩

theorem Keeps.rfl {s : State} : sys.Keeps s s :=
  ⟨fun _ => Eq.refl _, fun _ _ h => h⟩

/-- A file is replaced as well where only directories have been made before. -/
theorem Keeps.replaces {before made after : State} {path : String} {bytes : ByteArray}
    (h : sys.Keeps before made) (h' : sys.Replaces made after path bytes) :
    sys.Replaces before after path bytes where
  written := by
    obtain ⟨f, hf, hbytes, hothers⟩ := h'.written
    exact ⟨f, hf, hbytes, fun g hg => (hothers g hg).trans (h.bytes? g)⟩
  fileAt? other g hg := h'.fileAt? other g (h.fileAt? other g hg)

end FileSystem

end ModuleCatalog
