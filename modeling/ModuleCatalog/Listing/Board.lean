import ModuleCatalog.Catalog.Entry

/-!
The board on which load cycles publish. Every cycle has a generation; a write that carries another
generation than the current one is refused and changes nothing. Watchers notice every begin and
every accepted write, and nothing else.
-/
namespace ModuleCatalog

/-- What is shown of a catalog. -/
inductive Listing where
  | loading
  | ready (entries : List Entry)
  | failed (message : String)
  deriving DecidableEq, Repr

namespace Listing

def entries? : Listing → Option (List Entry)
  | .ready entries => some entries
  | _ => none

/-- The number of entries whose release is still being looked up. -/
def pending (l : Listing) : Nat :=
  (l.entries?.getD []).countP (·.isLoading)

end Listing

/-- What is shown, and the generation of the cycle that it belongs to. -/
structure Snapshot where
  generation : Nat
  listing : Listing
  deriving DecidableEq, Repr

/-- The current snapshot and the number of changes made to it so far. -/
structure Board where
  snapshot : Snapshot
  changes : Nat
  deriving DecidableEq, Repr

/-- A watcher remembers how many changes it has seen. -/
structure Watcher where
  seen : Nat
  deriving DecidableEq, Repr

namespace Board

def empty : Board :=
  ⟨⟨0, .loading⟩, 0⟩

def generation (b : Board) : Nat :=
  b.snapshot.generation

def post (b : Board) (s : Snapshot) : Board :=
  ⟨s, b.changes + 1⟩

/-- Begins a cycle: the next generation, still loading. -/
def begin (b : Board) : Board :=
  b.post ⟨b.generation + 1, .loading⟩

def beginTimes : Nat → Board → Board
  | 0, b => b
  | n + 1, b => beginTimes n b.begin

/-- Publishes for a generation, and says whether the write was accepted. -/
def publish (b : Board) (generation : Nat) (listing : Listing) : Board × Bool :=
  if generation = b.generation then (b.post ⟨generation, listing⟩, true) else (b, false)

/-- Puts an entry in the place of the first one with its identity, or at the end. -/
def replaceOrAppend (e : Entry) : List Entry → List Entry
  | [] => [e]
  | x :: xs => if x.identity = e.identity then e :: xs else x :: replaceOrAppend e xs

/-- Updates one entry of the list of a generation, and says whether the write was accepted. -/
def update (b : Board) (generation : Nat) (e : Entry) : Board × Bool :=
  match b.snapshot.listing with
  | .ready entries =>
    if generation = b.generation then
      (b.post ⟨generation, .ready (replaceOrAppend e entries)⟩, true)
    else (b, false)
  | _ => (b, false)

@[simp]
theorem generation_post (b : Board) (s : Snapshot) : (b.post s).generation = s.generation := rfl

@[simp]
theorem generation_begin (b : Board) : b.begin.generation = b.generation + 1 := rfl

@[simp]
theorem generation_beginTimes (n : Nat) (b : Board) :
    (b.beginTimes n).generation = b.generation + n := by
  induction n generalizing b with
  | zero => rfl
  | succ n ih => rw [beginTimes, ih, generation_begin]; omega

@[simp]
theorem publish_current (b : Board) (l : Listing) :
    b.publish b.generation l = (b.post ⟨b.generation, l⟩, true) := by
  simp [publish]

theorem publish_stale {b : Board} {generation : Nat} (h : generation ≠ b.generation)
    (l : Listing) : b.publish generation l = (b, false) := by
  simp [publish, h]

@[simp]
theorem generation_publish (b : Board) (generation : Nat) (l : Listing) :
    (b.publish generation l).1.generation = b.generation := by
  by_cases h : generation = b.generation
  · subst h; simp
  · rw [publish_stale h]

theorem update_stale {b : Board} {generation : Nat} (h : generation ≠ b.generation) (e : Entry) :
    b.update generation e = (b, false) := by
  unfold update
  split <;> simp [h]

theorem update_ready {b : Board} {entries : List Entry} (h : b.snapshot.listing = .ready entries)
    (e : Entry) :
    b.update b.generation e = (b.post ⟨b.generation, .ready (replaceOrAppend e entries)⟩, true) := by
  simp [update, h]

theorem update_not_ready {b : Board} (h : ∀ entries, b.snapshot.listing ≠ .ready entries)
    (generation : Nat) (e : Entry) : b.update generation e = (b, false) := by
  unfold update
  split
  · next entries hready => exact absurd hready (h entries)
  · rfl

@[simp]
theorem generation_update (b : Board) (generation : Nat) (e : Entry) :
    (b.update generation e).1.generation = b.generation := by
  unfold update
  split
  · split
    · next h => exact h
    · rfl
  · rfl

def watch (b : Board) : Watcher :=
  ⟨b.changes⟩

end Board

/-- Says whether there is a change that the watcher has not seen. -/
def Watcher.hasChange (w : Watcher) (b : Board) : Bool :=
  w.seen != b.changes

@[simp]
theorem Watcher.hasChange_watch (b : Board) : b.watch.hasChange b = false := by
  simp [Watcher.hasChange, Board.watch]

end ModuleCatalog
