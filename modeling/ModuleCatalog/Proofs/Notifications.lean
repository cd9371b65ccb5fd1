import ModuleCatalog.Listing.Watching
import Mathlib.Data.List.Induction

/-!
What a board and its watchers owe each other over a history of operations. The number of changes
that a board counts is the number of begins and accepted writes, and what a watcher has seen is that
number as it was when the watcher was last looked at.
-/
namespace ModuleCatalog

namespace Board

/-- A write that is accepted is one change of the snapshot, one that is refused is none. -/
structure Writes (b : Board) (result : Board × Bool) : Prop where
  changes_eq : result.1.changes = b.changes + if result.2 then 1 else 0
  generation_eq : result.1.generation = b.generation
  eq_of_refused : result.2 = false → result.1 = b

theorem writes_publish (b : Board) (generation : Nat) (listing : Listing) :
    b.Writes (b.publish generation listing) := by
  by_cases h : generation = b.generation
  · subst h
    rw [publish_current]
    exact ⟨rfl, rfl, fun hr => by cases hr⟩
  · rw [publish_stale h]
    exact ⟨rfl, rfl, fun _ => rfl⟩

theorem writes_update (b : Board) (generation : Nat) (e : Entry) :
    b.Writes (b.update generation e) := by
  by_cases h : generation = b.generation
  · subst h
    cases hl : b.snapshot.listing with
    | ready entries =>
      rw [update_ready hl]
      exact ⟨rfl, rfl, fun hr => by cases hr⟩
    | loading =>
      rw [update_not_ready fun entries hr => by rw [hl] at hr; cases hr]
      exact ⟨rfl, rfl, fun _ => rfl⟩
    | failed message =>
      rw [update_not_ready fun entries hr => by rw [hl] at hr; cases hr]
      exact ⟨rfl, rfl, fun _ => rfl⟩
  · rw [update_stale h]
    exact ⟨rfl, rfl, fun _ => rfl⟩

theorem publish_accepted (b : Board) (generation : Nat) (listing : Listing) :
    (b.publish generation listing).2 = decide (generation = b.generation) := by
  by_cases h : generation = b.generation
  · subst h
    simp
  · simp [publish_stale h, h]

theorem update_accepted_iff (b : Board) (generation : Nat) (e : Entry) :
    (b.update generation e).2 = true ↔
      generation = b.generation ∧ ∃ entries, b.snapshot.listing = .ready entries := by
  constructor
  · intro h
    by_cases hr : ∃ entries, b.snapshot.listing = .ready entries
    · by_cases hg : generation = b.generation
      · exact ⟨hg, hr⟩
      · rw [update_stale hg] at h
        cases h
    · rw [update_not_ready (not_exists.mp hr)] at h
      cases h
  · rintro ⟨rfl, entries, hr⟩
    rw [update_ready hr]

end Board

namespace Watched

/-- What an operation does to the board: a change is counted if its response says that it made one,
and a begin alone moves the generation. -/
structure Steps (w : Watched) (operation : Operation) (result : Watched × Response) : Prop where
  changes_eq : result.1.board.changes = w.board.changes + if result.2.isChange then 1 else 0
  generation_eq : result.1.board.generation =
    w.board.generation + if operation = .begin then 1 else 0
  board_eq : result.2.isChange = false → result.1.board = w.board
  refused : result.2 = .written false → result.1 = w

theorem steps_write (w : Watched) {operation : Operation} {result : Board × Bool}
    (hw : w.board.Writes result) (hb : operation ≠ .begin) :
    w.Steps operation (w.write result) := by
  refine ⟨hw.changes_eq, ?_, hw.eq_of_refused, ?_⟩
  · rw [if_neg hb]
    exact hw.generation_eq
  · intro hr
    have hrefused : result.2 = false := by simpa [write] using hr
    rw [write, hw.eq_of_refused hrefused]

theorem steps_step (w : Watched) (operation : Operation) : w.Steps operation (w.step operation) := by
  cases operation with
  | begin => exact ⟨rfl, rfl, nofun, nofun⟩
  | putUp generation entries => exact w.steps_write (w.board.writes_publish _ _) (by simp)
  | giveUp generation message => exact w.steps_write (w.board.writes_publish _ _) (by simp)
  | update generation entry => exact w.steps_write (w.board.writes_update _ _) (by simp)
  | subscribe => exact ⟨rfl, rfl, fun _ => rfl, nofun⟩
  | poll j =>
    simp only [step]
    split
    · exact ⟨rfl, rfl, fun _ => rfl, nofun⟩
    · exact ⟨rfl, rfl, fun _ => rfl, nofun⟩

theorem generation_run (w : Watched) (operations : List Operation) :
    (w.run operations).board.generation =
      w.board.generation + operations.countP fun o => decide (o = .begin) := by
  induction operations generalizing w with
  | nil => rfl
  | cons operation operations ih =>
    rw [run_cons, ih, (w.steps_step operation).generation_eq, List.countP_cons]
    simp only [decide_eq_true_eq]
    omega

theorem changes_run (w : Watched) (operations : List Operation) :
    (w.run operations).board.changes =
      w.board.changes + (w.responses operations).countP Response.isChange := by
  induction operations generalizing w with
  | nil => rfl
  | cons operation operations ih =>
    rw [run_cons, ih, (w.steps_step operation).changes_eq, responses, List.countP_cons]
    omega

/-- As long as nothing changes, the board stays as it is. -/
theorem board_run_of_unchanged {w : Watched} {operations : List Operation}
    (h : ∀ r ∈ w.responses operations, r.isChange = false) : (w.run operations).board = w.board := by
  induction operations generalizing w with
  | nil => rfl
  | cons operation operations ih =>
    have hrest := ih fun r hr => h r (List.mem_cons_of_mem _ hr)
    rw [run_cons, hrest]
    exact (w.steps_step operation).board_eq (h _ List.mem_cons_self)

/-- Says whether a watcher is up to date after an operation: it is handed out, or polled. -/
def Marks (w : Watched) (k : Nat) (operation : Operation) : Prop :=
  operation = .poll k ∧ k < w.watchers.length ∨ operation = .subscribe ∧ k = w.watchers.length

theorem step_of_marks {w : Watched} {k : Nat} {operation : Operation} (h : w.Marks k operation) :
    (w.step operation).1.board = w.board ∧
      (w.step operation).1.watchers[k]? = some w.board.watch := by
  rcases h with ⟨rfl, hk⟩ | ⟨rfl, rfl⟩
  · have hw : w.watchers[k]? = some w.watchers[k] := List.getElem?_eq_getElem hk
    simp only [step, hw]
    exact ⟨trivial, List.getElem?_set_self hk⟩
  · exact ⟨rfl, by simp [step]⟩

/-- A watcher is brought up to date, or it is as it was before the operation. -/
theorem marks_or_kept {w : Watched} {k : Nat} {operation : Operation} {watcher : Watcher}
    (hk : (w.step operation).1.watchers[k]? = some watcher) :
    w.Marks k operation ∨ operation ≠ .poll k ∧ w.watchers[k]? = some watcher := by
  cases operation with
  | begin => exact .inr ⟨nofun, hk⟩
  | putUp generation entries => exact .inr ⟨nofun, hk⟩
  | giveUp generation message => exact .inr ⟨nofun, hk⟩
  | update generation entry => exact .inr ⟨nofun, hk⟩
  | subscribe =>
    change (w.watchers ++ [w.board.watch])[k]? = some watcher at hk
    rcases Nat.lt_trichotomy k w.watchers.length with hlt | heq | hgt
    · rw [List.getElem?_append_left hlt] at hk
      exact .inr ⟨nofun, hk⟩
    · exact .inl (.inr ⟨rfl, heq⟩)
    · rw [List.getElem?_eq_none (by simp; omega)] at hk
      cases hk
  | poll j =>
    simp only [step] at hk
    split at hk
    · next hj =>
      refine .inr ⟨fun h => ?_, hk⟩
      cases h
      rw [hj] at hk
      cases hk
    · next seen hj =>
      by_cases h : j = k
      · subst h
        exact .inl (.inl ⟨rfl, (List.getElem?_eq_some_iff.mp hj).1⟩)
      · rw [List.getElem?_set_ne h] at hk
        exact .inr ⟨fun he => h (Operation.poll.inj he), hk⟩

/-- What a watcher has seen is the number of changes when it was last brought up to date. -/
theorem exists_mark {operations : List Operation} {k : Nat} {watcher : Watcher}
    (hk : (new.run operations).watchers[k]? = some watcher) :
    ∃ before mark since, operations = before ++ mark :: since ∧ (new.run before).Marks k mark ∧
      .poll k ∉ since ∧ watcher = (new.run before).board.watch := by
  induction operations using List.reverseRecOn with
  | nil => cases hk
  | append_singleton operations operation ih =>
    rw [run_append] at hk
    rcases marks_or_kept hk with hm | ⟨hne, hold⟩
    · refine ⟨operations, operation, [], rfl, hm, List.not_mem_nil, ?_⟩
      exact Option.some.inj (hk.symm.trans (step_of_marks hm).2)
    · obtain ⟨before, mark, since, rfl, hm, hpoll, hw⟩ := ih hold
      refine ⟨before, mark, since ++ [operation], by simp, hm, ?_, hw⟩
      simp only [List.mem_append, List.mem_singleton, not_or]
      exact ⟨hpoll, hne.symm⟩

theorem step_poll {w : Watched} {k : Nat} {watcher : Watcher}
    (hk : w.watchers[k]? = some watcher) :
    (w.step (.poll k)).2 = .polled (watcher.hasChange w.board) w.board.snapshot := by
  simp only [step, hk]

/-- A watcher that was up to date has something to see once an operation made a change. -/
theorem hasChange_run_iff (w : Watched) (operations : List Operation) :
    w.board.watch.hasChange (w.run operations).board = true ↔
      ∃ r ∈ w.responses operations, r.isChange = true := by
  have hchanges := w.changes_run operations
  rw [← List.countP_pos_iff]
  simp only [Watcher.hasChange, Board.watch, bne_iff_ne]
  omega

/-- Over every history, the generation is the number of begins, writes are accepted by generation,
refused writes are as if they had not been made, and a poll tells whether anything has changed since
the watcher was handed out or last polled. -/
theorem watched_run_spec (operations : List Operation) :
    let w := new.run operations
    (w.board.generation = operations.countP fun o => decide (o = .begin)) ∧
    (∀ generation entries, (w.step (.putUp generation entries)).2 =
      .written (decide (generation = w.board.generation))) ∧
    (∀ generation message, (w.step (.giveUp generation message)).2 =
      .written (decide (generation = w.board.generation))) ∧
    (∀ generation entry, ∃ accepted, (w.step (.update generation entry)).2 = .written accepted ∧
      (accepted = true ↔ generation = w.board.generation ∧
        ∃ entries, w.board.snapshot.listing = .ready entries)) ∧
    (∀ operation, (w.step operation).2 = .written false → (w.step operation).1 = w) ∧
    ∀ k < w.watchers.length, ∃ before mark since changed,
      operations = before ++ mark :: since ∧ (new.run before).Marks k mark ∧ .poll k ∉ since ∧
      (w.step (.poll k)).2 = .polled changed w.board.snapshot ∧
      (changed = true ↔
        ∃ r ∈ ((new.run before).step mark).1.responses since, r.isChange = true) ∧
      (changed = false → w.board.snapshot = (new.run before).board.snapshot ∧
        ∀ earlier shown, ((new.run before).step mark).2 = .polled earlier shown →
          shown = w.board.snapshot) := by
  intro w
  refine ⟨?_, ?_, ?_, ?_, fun operation => (w.steps_step operation).refused, ?_⟩
  · rw [generation_run]
    exact Nat.zero_add _
  · intro generation entries
    exact congrArg Response.written (w.board.publish_accepted _ _)
  · intro generation message
    exact congrArg Response.written (w.board.publish_accepted _ _)
  · intro generation entry
    exact ⟨_, rfl, w.board.update_accepted_iff generation entry⟩
  · intro k hk
    have hw : w.watchers[k]? = some w.watchers[k] := List.getElem?_eq_getElem hk
    obtain ⟨before, mark, since, he, hm, hpoll, hseen⟩ := exists_mark hw
    let marked := ((new.run before).step mark).1
    have hboard : marked.board = (new.run before).board := (step_of_marks hm).1
    have hrun : w = marked.run since := by simp only [w, he, run_append, run_cons, marked]
    have hchanged : w.watchers[k].hasChange w.board = true ↔
        ∃ r ∈ marked.responses since, r.isChange = true := by
      rw [hseen, ← hboard, hrun]
      exact marked.hasChange_run_iff since
    refine ⟨before, mark, since, _, he, hm, hpoll, step_poll hw, hchanged, fun hsame => ?_⟩
    have hunchanged : w.board = (new.run before).board := by
      rw [hrun, board_run_of_unchanged, hboard]
      intro r hr
      refine Bool.eq_false_iff.mpr fun hc => ?_
      rw [hchanged.mpr ⟨r, hr, hc⟩] at hsame
      cases hsame
    refine ⟨congrArg Board.snapshot hunchanged, fun earlier shown hshown => ?_⟩
    rcases hm with ⟨rfl, hlt⟩ | ⟨rfl, -⟩
    · rw [step_poll (List.getElem?_eq_getElem hlt)] at hshown
      cases hshown
      exact congrArg Board.snapshot hunchanged.symm
    · cases hshown

/-- A list is put up, seen, and then written to for a cycle that was never begun. -/
theorem watched_run_spec_seen :
    let operations : List Operation := [.subscribe, .begin, .putUp 1 [], .poll 0, .giveUp 2 "late"]
    let w := new.run operations
    (w.step (.giveUp 2 "late")).2 = .written false ∧ (w.step (.giveUp 2 "late")).1 = w ∧
      (w.step (.poll 0)).2 = .polled false ⟨1, .ready []⟩ ∧
      ∃ before mark since, operations = before ++ mark :: since ∧ (new.run before).Marks 0 mark ∧
        (new.run before).board.snapshot = ⟨1, .ready []⟩ := by
  intro operations w
  obtain ⟨-, -, -, -, hrefused, hpolls⟩ := watched_run_spec operations
  obtain ⟨before, mark, since, changed, he, hm, -, hpolled, -, hsame⟩ := hpolls 0 (by decide)
  have hpoll : (w.step (.poll 0)).2 = .polled false ⟨1, .ready []⟩ := by decide
  have hchanged : changed = false := (Response.polled.inj (hpolled.symm.trans hpoll)).1
  refine ⟨by decide, hrefused _ (by decide), hpoll, before, mark, since, he, hm, ?_⟩
  exact (hsame hchanged).1.symm.trans (by decide)

end Watched

end ModuleCatalog
