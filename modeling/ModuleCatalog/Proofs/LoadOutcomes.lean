import ModuleCatalog.Listing.Session
import Mathlib.Algebra.BigOperators.Group.List.Basic
import Mathlib.Algebra.GroupWithZero.Nat
import Mathlib.Data.List.Forall2

/-!
How a load begins and ends. It opens by publishing that it is loading; what the sources hold and the
cycles begun meanwhile decide which of three endings it has, and the board, the outcome and the
tasks started agree on it.
-/
namespace ModuleCatalog

/-- A source contributes the entries of a catalog that it answers with, and nothing if it fails. -/
inductive Contributes (t : Transport) (kind : Kind) (url : String) : List Entry → Prop where
  | catalog {body : String} {entries : List Entry} (answered : (t.text url).answer = .got body)
      (parsed : Catalog.parse kind url body = .ok entries) : Contributes t kind url entries
  | failure (failed : ∀ body entries, (t.text url).answer = .got body →
      Catalog.parse kind url body ≠ .ok entries) : Contributes t kind url []

theorem contributes_fetch (t : Transport) (kind : Kind) (url : String) :
    Contributes t kind url (fetch t kind url).list := by
  cases ha : (t.text url).answer with
  | got body =>
    cases hp : Catalog.parse kind url body with
    | ok entries => simpa [fetch, Fetched.list, ha, hp] using Contributes.catalog ha hp
    | error failure =>
      have hf : Contributes t kind url [] := by
        refine .failure fun body' entries hb hp' => ?_
        obtain rfl : body = body' := Answer.got.inj (ha.symm.trans hb)
        rw [hp] at hp'
        cases hp'
      simpa [fetch, Fetched.list, ha, hp] using hf
  | failed failure =>
    have hf : Contributes t kind url [] :=
      .failure fun body entries hb => by rw [ha] at hb; cases hb
    simpa [fetch, Fetched.list, ha] using hf
  | crashed =>
    have hf : Contributes t kind url [] :=
      .failure fun body entries hb => by rw [ha] at hb; cases hb
    simpa [fetch, Fetched.list, ha] using hf

theorem forall₂_contributes (t : Transport) (kind : Kind) (urls : List String) :
    List.Forall₂ (Contributes t kind) urls ((fetchAll t kind urls).map Fetched.list) := by
  induction urls with
  | nil => exact .nil
  | cons url urls ih => exact .cons (contributes_fetch t kind url) ih

@[simp] theorem requests_fetchAll (t : Transport) (kind : Kind) (urls : List String) :
    (fetchAll t kind urls).flatMap (·.requests) = urls.map .text := by
  induction urls with
  | nil => rfl
  | cons url urls ih =>
    rw [List.map_cons, ← ih]
    rfl

namespace Board

theorem beginTimes_add (m n : Nat) (b : Board) :
    (b.beginTimes m).beginTimes n = b.beginTimes (m + n) := by
  induction m generalizing b with
  | zero => rw [beginTimes, Nat.zero_add]
  | succ m ih => rw [beginTimes, ih, Nat.add_right_comm, beginTimes]

/-- The cycles begun while one source after another is asked add up. -/
theorem foldl_beginTimes (t : Transport) (kind : Kind) (urls : List String) (b : Board) :
    (fetchAll t kind urls).foldl (fun board f => board.beginTimes f.begins) b =
      b.beginTimes (urls.map fun url => (t.text url).begins).sum := by
  induction urls generalizing b with
  | nil => rfl
  | cons url urls ih =>
    rw [List.map_cons, List.sum_cons, ← beginTimes_add, ← ih]
    rfl

/-- Cycles begun one after another leave the last one's snapshot. -/
theorem beginTimes_succ (n : Nat) (b : Board) :
    (b.begin.beginTimes n).snapshot = ⟨b.generation + 1 + n, .loading⟩ ∧
      (b.begin.beginTimes n).changes = b.changes + 1 + n := by
  induction n generalizing b with
  | zero => exact ⟨rfl, rfl⟩
  | succ n ih =>
    obtain ⟨hs, hc⟩ := ih b.begin
    rw [beginTimes, hs, hc]
    refine ⟨congrArg (Snapshot.mk · .loading) ?_, ?_⟩
    · rw [generation_begin]
      omega
    · change b.changes + 1 + 1 + n = _
      omega

end Board

namespace Loader

@[simp] theorem generation_startCycle (l : Loader) :
    l.startCycle.board.generation = l.board.generation + 1 := rfl

section Load

variable (l : Loader) (t : Transport) (urls : List String)

/-- The number of cycles begun on the board while the sources are being asked. -/
def beginsMeanwhile : Nat :=
  (urls.map fun url => (t.text url).begins).sum

/-- The loader of a load whose sources have answered, before it publishes. -/
def waited : Loader :=
  { l.startCycle with board := l.startCycle.board.beginTimes (beginsMeanwhile t urls) }

theorem waited_board :
    (l.waited t urls).board.snapshot =
        ⟨l.board.generation + 1 + beginsMeanwhile t urls, .loading⟩ ∧
      (l.waited t urls).board.changes = l.board.changes + 1 + beginsMeanwhile t urls :=
  Board.beginTimes_succ _ l.board

theorem load_eq :
    l.load t urls =
      let published := (l.waited t urls).publishMerged (l.board.generation + 1)
        (mergeFetched (fetchAll t l.kind urls))
      ⟨published.1, l.board.generation + 1, published.2, urls.map .text⟩ := by
  simp [load, waited, beginsMeanwhile, Board.foldl_beginTimes]

variable {l t urls}

/-- Without another cycle, the load publishes on the board that it began its own cycle on. -/
theorem waited_of_none (h : beginsMeanwhile t urls = 0) : l.waited t urls = l.startCycle := by
  rw [waited, h]
  rfl

theorem load_listed (h : beginsMeanwhile t urls = 0)
    (hmerged : mergeFetched (fetchAll t l.kind urls) ≠ []) :
    l.load t urls =
      let entries := (mergeFetched (fetchAll t l.kind urls)).map Entry.placeholder
      ⟨spawn
          { l.startCycle with
            board := l.startCycle.board.post ⟨l.board.generation + 1, .ready entries⟩ }
          (l.board.generation + 1) entries,
        l.board.generation + 1, .listed (mergeFetched (fetchAll t l.kind urls)).length,
        urls.map .text⟩ := by
  rw [load_eq, waited_of_none h, ← generation_startCycle, publishMerged_of_ne_nil _ hmerged]

theorem load_nothing (h : beginsMeanwhile t urls = 0)
    (hmerged : mergeFetched (fetchAll t l.kind urls) = []) :
    l.load t urls =
      ⟨{ l.startCycle with
          board := l.startCycle.board.post
            ⟨l.board.generation + 1, .failed (Failure.nothingListed l.kind).message⟩ },
        l.board.generation + 1, .nothing, urls.map .text⟩ := by
  rw [load_eq, waited_of_none h, hmerged, ← generation_startCycle, publishMerged_nil]
  rfl

theorem load_superseded (h : beginsMeanwhile t urls ≠ 0) :
    l.load t urls =
      ⟨l.waited t urls, l.board.generation + 1, .superseded, urls.map .text⟩ := by
  have hcurrent : (l.waited t urls).board.generation =
      l.board.generation + 1 + beginsMeanwhile t urls :=
    congrArg Snapshot.generation (waited_board l t urls).1
  rw [load_eq, publishMerged_stale (by omega)]

end Load

end Loader

namespace Session

variable (l : Loader) (loads : List Load) (t : Transport) (urls : List String)

theorem run_replicate_beginCycle (n : Nat) :
    (⟨l, loads⟩ : Session).run (.replicate n .beginCycle) =
      ⟨{ l with board := l.board.beginTimes n }, loads⟩ := by
  induction n generalizing l with
  | zero => rfl
  | succ n ih => exact ih l.beginCycle

/-- A load that was opened goes on loading while others begin their cycles. -/
theorem loading_replicate (n : Nat) :
    (((⟨l, loads⟩ : Session).step (.openLoad urls)).1.run (.replicate n .beginCycle)).board.snapshot =
      ⟨l.board.generation + 1 + n, .loading⟩ := by
  have hopened : ((⟨l, loads⟩ : Session).step (.openLoad urls)).1 =
      ⟨l.startCycle, loads ++ [⟨l.board.generation + 1, .asking urls⟩]⟩ := rfl
  rw [hopened, run_replicate_beginCycle]
  exact (Board.beginTimes_succ n l.board).1

/-- The turn that closes a load takes it to its end. -/
theorem run_close :
    ((⟨l, loads⟩ : Session).step (.openLoad urls)).1.run
        (.replicate (Loader.beginsMeanwhile t urls) .beginCycle ++ [.closeLoad loads.length t]) =
      ⟨(l.load t urls).loader,
        loads ++ [⟨l.board.generation + 1, .closed (l.load t urls).outcome⟩]⟩ := by
  let asking : List Load := loads ++ [⟨l.board.generation + 1, .asking urls⟩]
  have hopened : ((⟨l, loads⟩ : Session).step (.openLoad urls)).1 = ⟨l.startCycle, asking⟩ := rfl
  have hk : asking[loads.length]? = some ⟨l.board.generation + 1, .asking urls⟩ := by
    simp [asking]
  have hset (load : Load) : asking.set loads.length load = loads ++ [load] := by simp [asking]
  rw [hopened, run_append, run_replicate_beginCycle, run_cons, run_nil]
  change (⟨l.waited t urls, asking⟩ : Session).closeLoad loads.length t = _
  simp only [closeLoad, hk, hset, Loader.load_eq]
  rfl

end Session

namespace Loader

/-- A load opens with a turn that begins the next cycle, publishes that it is loading and asks each
source once; while others begin their cycles it goes on loading, and it comes to its end with the
turn that closes it. If no other cycle has begun by the time when all sources have answered, it
lists the merged entries with one task for each, or reports that there are none; otherwise it leaves
the board as the last of those cycles did. -/
theorem load_ends (l : Loader) (loads : List Load) (t : Transport) (urls : List String) :
    let generation := l.board.generation + 1
    let begins := (urls.map fun url => (t.text url).begins).sum
    let loaded := l.load t urls
    let board := loaded.loader.board
    let opening := (⟨l, loads⟩ : Session).step (.openLoad urls)
    let opened := opening.1
    opened.board.snapshot = ⟨generation, .loading⟩ ∧
    opened.board.changes = l.board.changes + 1 ∧
    opening.2 = urls.map .text ∧
    (∀ n, (opened.run (.replicate n .beginCycle)).board.snapshot = ⟨generation + n, .loading⟩) ∧
    opened.run (.replicate begins .beginCycle ++ [.closeLoad loads.length t]) =
      ⟨loaded.loader, loads ++ [⟨generation, .closed loaded.outcome⟩]⟩ ∧
    loaded.generation = generation ∧
    loaded.requests = urls.map .text ∧
    ∃ lists, List.Forall₂ (Contributes t l.kind) urls lists ∧
      ((begins = 0 ∧ Catalog.merge lists ≠ [] ∧
          board.snapshot =
            ⟨generation, .ready ((Catalog.merge lists).map Entry.placeholder)⟩ ∧
          board.changes = opened.board.changes + 1 ∧
          loaded.outcome = .listed (Catalog.merge lists).length ∧
          loaded.loader.tasks = opened.tasks ++
            (Catalog.merge lists).map fun e => ⟨generation, e.placeholder, .waiting⟩) ∨
        (begins = 0 ∧ Catalog.merge lists = [] ∧
          board.snapshot = ⟨generation, .failed
            (match l.kind with
              | .modules => "No modules found across all repositories"
              | .metaModules => "Failed to load module list")⟩ ∧
          board.changes = opened.board.changes + 1 ∧
          loaded.outcome = .nothing ∧
          loaded.loader.tasks = opened.tasks) ∨
        (begins ≠ 0 ∧
          board.snapshot = ⟨generation + begins, .loading⟩ ∧
          board.changes = opened.board.changes + begins ∧
          loaded.outcome = .superseded ∧
          loaded.loader.tasks = opened.tasks)) := by
  intro generation begins loaded board opening opened
  have hload : loaded = _ := load_eq l t urls
  refine ⟨rfl, rfl, rfl, Session.loading_replicate l loads urls, Session.run_close l loads t urls,
    by rw [hload], by rw [hload], _, forall₂_contributes t l.kind urls, ?_⟩
  by_cases hbegins : begins = 0
  · by_cases hmerged : Catalog.merge ((fetchAll t l.kind urls).map Fetched.list) = []
    · right; left
      have hnothing : loaded = _ := load_nothing hbegins hmerged
      have hmessage : (Failure.nothingListed l.kind).message =
          match l.kind with
            | .modules => "No modules found across all repositories"
            | .metaModules => "Failed to load module list" := by
        cases l.kind <;> rfl
      refine ⟨hbegins, hmerged, ?_, ?_, by rw [hnothing], by rw [hnothing]; rfl⟩
      · simp only [board, hnothing, ← hmessage]
        rfl
      · simp only [board, hnothing]
        rfl
    · left
      have hlisted : loaded = _ := load_listed hbegins hmerged
      refine ⟨hbegins, hmerged, ?_, ?_, by rw [hlisted]; rfl, ?_⟩
      · simp only [board, hlisted, board_spawn]
        rfl
      · simp only [board, hlisted, board_spawn]
        rfl
      · rw [hlisted]
        refine (tasks_spawn ?_ _).trans ?_
        · rfl
        · rw [tasksFor, List.map_map]
          rfl
  · right; right
    have hsuperseded : loaded = _ := load_superseded hbegins
    refine ⟨hbegins, ?_, ?_, by rw [hsuperseded], by rw [hsuperseded]; rfl⟩
    · simp only [board, hsuperseded, waited_board]
      rfl
    · simp only [board, hsuperseded, waited_board]
      rfl

end Loader

end ModuleCatalog
