import ModuleCatalog.Proofs.Turns
import Mathlib.Data.List.Nodup

/-!
Which loads and tasks belong to which cycle. In every session the loads have distinct generations,
none of them is ahead of the board, and a load whose sources are still being asked has no tasks.
-/
namespace ModuleCatalog

/-- What a task was started for: its generation and its entry. -/
def Task.origin (t : Task) : Nat × Entry :=
  (t.generation, t.entry)

@[simp] theorem map_origin_abortAt (positions : List Nat) (tasks : List Task) :
    (abortAt positions tasks).map Task.origin = tasks.map Task.origin := by
  apply List.ext_getElem?
  intro j
  rw [List.getElem?_map, List.getElem?_map, getElem?_abortAt]
  cases tasks[j]? with
  | none => rfl
  | some t => by_cases h : j ∈ positions <;> simp [h, Task.origin]

@[simp] theorem map_origin_setStatus (tasks : List Task) (i : Nat) (status : TaskStatus) :
    (Loader.setStatus tasks i status).map Task.origin = tasks.map Task.origin := by
  apply List.ext_getElem?
  intro j
  rw [List.getElem?_map, List.getElem?_map, getElem?_setStatus]
  cases tasks[j]? with
  | none => rfl
  | some t => by_cases h : i = j <;> simp [h, Task.origin]

/-- Whether the new tasks are taken in flight or aborted, they stand at the end. -/
theorem map_origin_spawn (l : Loader) (generation : Nat) (entries : List Entry) :
    (l.spawn generation entries).tasks.map Task.origin =
      l.tasks.map Task.origin ++ entries.map fun e => (generation, e) := by
  have hnew : (Loader.tasksFor generation entries).map Task.origin =
      entries.map fun e => (generation, e) := by
    simp [Loader.tasksFor, Task.origin]
  unfold Loader.spawn Loader.register
  split <;> simp [hnew]

theorem exists_mem_of_map_origin {tasks tasks' : List Task}
    (h : tasks'.map Task.origin = tasks.map Task.origin) {t : Task} (ht : t ∈ tasks') :
    ∃ u ∈ tasks, u.generation = t.generation := by
  have hm : t.origin ∈ tasks.map Task.origin := h ▸ List.mem_map_of_mem ht
  obtain ⟨u, hu, he⟩ := List.mem_map.mp hm
  exact ⟨u, hu, congrArg Prod.fst he⟩

namespace Session

/-- How loads, tasks and the board of a session fit together. -/
structure Consistent (s : Session) : Prop where
  load_le : ∀ load ∈ s.loads, load.generation ≤ s.board.generation
  task_le : ∀ t ∈ s.tasks, t.generation ≤ s.board.generation
  distinct : (s.loads.map Load.generation).Nodup
  fresh : ∀ load ∈ s.loads, ∀ urls, load.status = .asking urls →
    ∀ t ∈ s.tasks, t.generation ≠ load.generation

theorem consistent_new (kind : Kind) : Consistent (new kind) := by
  refine ⟨?_, ?_, List.nodup_nil, ?_⟩
  all_goals simp [new, Loader.new, tasks]

/-- Neither a change of statuses nor a cycle begun on the board disturbs the generations. -/
theorem Consistent.of_origin {s s' : Session} (h : Consistent s) (hl : s'.loads = s.loads)
    (ht : s'.tasks.map Task.origin = s.tasks.map Task.origin)
    (hb : s.board.generation ≤ s'.board.generation) : Consistent s' := by
  refine ⟨?_, ?_, by rw [hl]; exact h.distinct, ?_⟩
  · intro load hm
    rw [hl] at hm
    exact Nat.le_trans (h.load_le load hm) hb
  · intro t hm
    obtain ⟨u, hu, he⟩ := exists_mem_of_map_origin ht hm
    exact he ▸ Nat.le_trans (h.task_le u hu) hb
  · intro load hm urls hs t htm
    rw [hl] at hm
    obtain ⟨u, hu, he⟩ := exists_mem_of_map_origin ht htm
    exact he ▸ h.fresh load hm urls hs u hu

/-- Two loads at different positions have different generations. -/
theorem Consistent.generation_ne {s : Session} (h : Consistent s) {i j : Nat} {a b : Load}
    (hi : s.loads[i]? = some a) (hj : s.loads[j]? = some b) (hne : i ≠ j) :
    a.generation ≠ b.generation := by
  have hlt {i j : Nat} {a b : Load} (hi : s.loads[i]? = some a) (hj : s.loads[j]? = some b)
      (hlt : i < j) : a.generation ≠ b.generation := by
    have hp := List.nodup_iff_getElem?_ne_getElem?.mp h.distinct i j hlt
      (by simpa using (List.getElem?_eq_some_iff.mp hj).1)
    simpa [hi, hj] using hp
  rcases Nat.lt_or_gt_of_ne hne with hl | hl
  · exact hlt hi hj hl
  · exact (hlt hj hi hl).symm

/-- When a load is over, the loads still asking are others, with other generations. -/
theorem Consistent.asking_of_set {s : Session} (h : Consistent s) {k generation : Nat}
    {urls : List String} {outcome : LoadOutcome}
    (hk : s.loads[k]? = some ⟨generation, .asking urls⟩) {load : Load} {urls' : List String}
    (hm : load ∈ s.loads.set k ⟨generation, .closed outcome⟩) (hs : load.status = .asking urls') :
    load ∈ s.loads ∧ load.generation ≠ generation := by
  obtain ⟨j, hj⟩ := List.mem_iff_getElem?.mp hm
  rw [List.getElem?_set] at hj
  by_cases hkj : k = j
  · rw [if_pos hkj] at hj
    split at hj
    · cases hj; cases hs
    · cases hj
  · rw [if_neg hkj] at hj
    exact ⟨List.mem_of_getElem? hj, h.generation_ne hj hk (Ne.symm hkj)⟩

/-- A load that ends keeps its generation; the tasks it starts carry that of the board. -/
theorem Consistent.afterLoad {s : Session} (h : Consistent s) {k generation : Nat}
    {urls : List String} {outcome : LoadOutcome} {loader : Loader} (entries : List Entry)
    (hk : s.loads[k]? = some ⟨generation, .asking urls⟩)
    (hb : loader.board.generation = s.board.generation)
    (ht : loader.tasks.map Task.origin =
      s.tasks.map Task.origin ++ entries.map fun e => (generation, e)) :
    Consistent (s.afterLoad k generation outcome loader) := by
  have hle := h.load_le _ (List.mem_of_getElem? hk)
  have hmem (t : Task) (htm : t ∈ loader.tasks) :
      (∃ u ∈ s.tasks, u.generation = t.generation) ∨ t.generation = generation := by
    have hm : t.origin ∈ loader.tasks.map Task.origin := List.mem_map_of_mem htm
    rw [ht, List.mem_append] at hm
    rcases hm with hm | hm
    · obtain ⟨u, hu, he⟩ := List.mem_map.mp hm
      exact .inl ⟨u, hu, congrArg Prod.fst he⟩
    · obtain ⟨e, -, he⟩ := List.mem_map.mp hm
      exact .inr (congrArg Prod.fst he).symm
  refine ⟨?_, ?_, ?_, ?_⟩
  · intro load hm
    change load.generation ≤ loader.board.generation
    rw [hb]
    rcases List.mem_or_eq_of_mem_set hm with hm | rfl
    · exact h.load_le load hm
    · exact hle
  · intro t htm
    change t.generation ≤ loader.board.generation
    rw [hb]
    rcases hmem t htm with ⟨u, hu, he⟩ | he
    · exact he ▸ h.task_le u hu
    · exact he ▸ hle
  · have hset : (s.loads.set k ⟨generation, .closed outcome⟩).map Load.generation =
        s.loads.map Load.generation := by
      obtain ⟨hlt, heq⟩ := List.getElem?_eq_some_iff.mp hk
      have hlen : k < (s.loads.map Load.generation).length := by simpa using hlt
      have hg : (s.loads.map Load.generation)[k] = generation := by simp [heq]
      rw [List.map_set, ← hg, List.set_getElem_self]
    exact hset ▸ h.distinct
  · intro load hm urls' hs t htm
    obtain ⟨hload, hne⟩ := h.asking_of_set hk hm hs
    rcases hmem t htm with ⟨u, hu, he⟩ | he
    · exact he ▸ h.fresh load hload urls' hs u hu
    · exact he ▸ hne.symm

/-- A load that opens takes the next generation, which no load and no task has yet. -/
theorem Consistent.openLoad {s : Session} (h : Consistent s) (urls : List String) :
    Consistent (s.openLoad urls).1 := by
  have ht : (s.openLoad urls).1.tasks.map Task.origin = s.tasks.map Task.origin :=
    map_origin_abortAt _ _
  have hb : (s.openLoad urls).1.board.generation = s.board.generation + 1 := rfl
  have hl : (s.openLoad urls).1.loads = s.loads ++ [⟨s.board.generation + 1, .asking urls⟩] := rfl
  have htask (t : Task) (hm : t ∈ (s.openLoad urls).1.tasks) :
      t.generation ≤ s.board.generation := by
    obtain ⟨u, hu, he⟩ := exists_mem_of_map_origin ht hm
    exact he ▸ h.task_le u hu
  refine ⟨?_, ?_, ?_, ?_⟩
  · intro load hm
    rw [hl, List.mem_append, List.mem_singleton] at hm
    rcases hm with hm | rfl
    · have := h.load_le load hm
      omega
    · exact Nat.le_of_eq hb.symm
  · intro t hm
    have := htask t hm
    omega
  · rw [hl, List.map_append, List.nodup_append]
    refine ⟨h.distinct, List.nodup_singleton _, ?_⟩
    intro g hg g' hg'
    obtain ⟨load, hm, rfl⟩ := List.mem_map.mp hg
    have hle := h.load_le load hm
    have he : g' = s.board.generation + 1 := by simpa using hg'
    omega
  · intro load hm urls' hs t htm
    rw [hl, List.mem_append, List.mem_singleton] at hm
    rcases hm with hm | rfl
    · obtain ⟨u, hu, he⟩ := exists_mem_of_map_origin ht htm
      exact he ▸ h.fresh load hm urls' hs u hu
    · have := htask t htm
      change t.generation ≠ s.board.generation + 1
      omega

theorem Consistent.effect {s s' : Session} {turn : Turn} {requests : List Request}
    (h : Consistent s) (he : Effect s turn s' requests) : Consistent s' := by
  cases he with
  | opened urls => exact h.openLoad urls
  | listed asking nonempty placeholders =>
    exact h.afterLoad _ asking (by rw [Loader.board_spawn]; rfl) (map_origin_spawn _ _ _)
  | nothing asking empty => exact h.afterLoad [] asking rfl (by simp [afterPost, tasks])
  | superseded asking stale => exact h.afterLoad [] asking rfl (by simp [tasks])
  | started waiting => exact h.of_origin rfl (map_origin_setStatus _ _ _) (Nat.le_refl _)
  | asked looking => exact h.of_origin rfl (map_origin_setStatus _ _ _) (Nat.le_refl _)
  | crashed looking => exact h.of_origin rfl (map_origin_setStatus _ _ _) (Nat.le_refl _)
  | answered looking =>
    refine h.of_origin rfl (map_origin_setStatus _ _ _) (Nat.le_of_eq ?_)
    exact (Board.generation_update _ _ _).symm
  | stopped stop => exact h.of_origin rfl (map_origin_abortAt _ _) (Nat.le_refl _)
  | begun => exact h.of_origin rfl rfl (Nat.le_succ _)
  | notAsking => exact h
  | notWaiting => exact h
  | notLooking => exact h

theorem consistent_run (kind : Kind) (turns : List Turn) : Consistent ((new kind).run turns) :=
  run_invariant (fun _ _ _ _ h he => h.effect he) (consistent_new kind) turns

end Session

end ModuleCatalog
