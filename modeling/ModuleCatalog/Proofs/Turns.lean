import ModuleCatalog.Listing.Session
import Mathlib.Data.List.Induction

/-!
What one turn of a session may do. Every fact about runs of turns is derived from the cases of
`Session.Effect`, each of which carries the guard under which it happens.
-/
namespace ModuleCatalog

theorem getElem?_setStatus (tasks : List Task) (i j : Nat) (status : TaskStatus) :
    (Loader.setStatus tasks i status)[j]? =
      (tasks[j]?).map fun t => if i = j then { t with status := status } else t := by
  rw [Loader.setStatus, List.getElem?_modify]
  rfl

theorem getElem?_abortAt (positions : List Nat) (tasks : List Task) (j : Nat) :
    (abortAt positions tasks)[j]? =
      (tasks[j]?).map fun t => if j ∈ positions then t.abort else t := by
  rw [abortAt, List.getElem?_mapIdx]

@[simp]
theorem length_setStatus (tasks : List Task) (i : Nat) (status : TaskStatus) :
    (Loader.setStatus tasks i status).length = tasks.length := by
  simp [Loader.setStatus]

namespace Session

/-- The session with another status of one task. -/
def withStatus (s : Session) (i : Nat) (status : TaskStatus) : Session :=
  { s with loader := { s.loader with tasks := Loader.setStatus s.tasks i status } }

/-- The loader after an accepted write of a load to the board. -/
def afterPost (s : Session) (listing : Listing) : Loader :=
  { s.loader with board := s.board.post ⟨s.board.generation, listing⟩ }

/-- The session once a load is over. -/
def afterLoad (s : Session) (k generation : Nat) (outcome : LoadOutcome) (loader : Loader) :
    Session :=
  ⟨loader, s.loads.set k ⟨generation, .closed outcome⟩⟩

/-- The merged list of the sources of a load. -/
def mergedFrom (s : Session) (t : Transport) (urls : List String) : List Entry :=
  mergeFetched (fetchAll t s.loader.kind urls)

/-- The effects that a turn can have, with the requests made in it. -/
inductive Effect (s : Session) : Turn → Session → List Request → Prop where
  | opened (urls : List String) :
      Effect s (.openLoad urls) (s.openLoad urls).1 (urls.map .text)
  | listed {k : Nat} {t : Transport} {urls : List String} {entries : List Entry}
      (asking : s.loads[k]? = some ⟨s.board.generation, .asking urls⟩)
      (nonempty : s.mergedFrom t urls ≠ [])
      (placeholders : entries = (s.mergedFrom t urls).map Entry.placeholder) :
      Effect s (.closeLoad k t)
        (s.afterLoad k s.board.generation (.listed entries.length)
          ((s.afterPost (.ready entries)).spawn s.board.generation entries)) []
  | nothing {k : Nat} {t : Transport} {urls : List String}
      (asking : s.loads[k]? = some ⟨s.board.generation, .asking urls⟩)
      (empty : s.mergedFrom t urls = []) :
      Effect s (.closeLoad k t)
        (s.afterLoad k s.board.generation .nothing
          (s.afterPost (.failed (Failure.nothingListed s.loader.kind).message))) []
  | superseded {k generation : Nat} {t : Transport} {urls : List String}
      (asking : s.loads[k]? = some ⟨generation, .asking urls⟩)
      (stale : generation ≠ s.board.generation) :
      Effect s (.closeLoad k t) (s.afterLoad k generation .superseded s.loader) []
  | started {i generation : Nat} {entry : Entry} {resolver : Release.Resolver}
      (waiting : s.tasks[i]? = some ⟨generation, entry, .waiting⟩) :
      Effect s (.startTask i resolver)
        (s.withStatus i
          (.looking (resolver entry.repoUrl).requests (resolver entry.repoUrl).outcome)) []
  | asked {i generation : Nat} {entry : Entry} {request : Request} {left : List Request}
      {outcome : Release.Outcome}
      (looking : s.tasks[i]? = some ⟨generation, entry, .looking (request :: left) outcome⟩) :
      Effect s (.advanceTask i) (s.withStatus i (.looking left outcome)) [request]
  | crashed {i generation : Nat} {entry : Entry}
      (looking : s.tasks[i]? = some ⟨generation, entry, .looking [] .crashed⟩) :
      Effect s (.advanceTask i) (s.withStatus i .crashed) []
  | answered {i generation : Nat} {entry : Entry} {release : Option Release}
      (looking : s.tasks[i]? = some ⟨generation, entry, .looking [] (.found release)⟩) :
      Effect s (.advanceTask i)
        ⟨{ s.loader with
            board := (s.board.update generation (entry.resolved release)).1
            tasks := Loader.setStatus s.tasks i (.done release) }, s.loads⟩ []
  | stopped {turn : Turn} (stop : turn = .cancel ∨ turn = .drop) :
      Effect s turn ⟨s.loader.cancel, s.loads⟩ []
  | begun : Effect s .beginCycle ⟨s.loader.beginCycle, s.loads⟩ []
  | notAsking {k : Nat} {t : Transport}
      (ended : ∀ generation urls, s.loads[k]? ≠ some ⟨generation, .asking urls⟩) :
      Effect s (.closeLoad k t) s []
  | notWaiting {i : Nat} {resolver : Release.Resolver}
      (started : ∀ generation entry, s.tasks[i]? ≠ some ⟨generation, entry, .waiting⟩) :
      Effect s (.startTask i resolver) s []
  | notLooking {i : Nat}
      (ended : ∀ generation entry left outcome,
        s.tasks[i]? ≠ some ⟨generation, entry, .looking left outcome⟩) :
      Effect s (.advanceTask i) s []

theorem effect_closeLoad (s : Session) (k : Nat) (t : Transport) :
    Effect s (.closeLoad k t) (s.closeLoad k t) [] := by
  unfold closeLoad
  split
  · next generation urls asking =>
    by_cases hg : generation = s.loader.board.generation
    · subst hg
      by_cases hm : s.mergedFrom t urls = []
      · have hm' : mergeFetched (fetchAll t s.loader.kind urls) = [] := hm
        simpa only [hm', Loader.publishMerged_nil] using! Effect.nothing asking hm
      · have hp := s.loader.publishMerged_of_ne_nil hm
        simp only [mergedFrom] at hp
        simpa only [hp, List.length_map] using! Effect.listed asking hm rfl
    · simpa only [Loader.publishMerged_stale hg] using! Effect.superseded asking hg
  · next ended => exact .notAsking ended

theorem effect_startTask (s : Session) (i : Nat) (resolver : Release.Resolver) :
    Effect s (.startTask i resolver) { s with loader := s.loader.startTask resolver i } [] := by
  unfold Loader.startTask
  split
  · next waiting => exact .started waiting
  · next started => exact .notWaiting started

theorem effect_advanceTask (s : Session) (i : Nat) :
    Effect s (.advanceTask i) { s with loader := (s.loader.advanceTask i).1 }
      (s.loader.advanceTask i).2 := by
  unfold Loader.advanceTask
  split
  · next looking => exact .asked looking
  · next looking => exact .crashed looking
  · next looking => exact .answered looking
  · next asked crashed answered =>
    refine .notLooking fun generation entry left outcome looking => ?_
    cases left with
    | cons request left => exact asked _ _ _ _ _ looking
    | nil =>
      cases outcome with
      | crashed => exact crashed _ _ looking
      | found release => exact answered _ _ _ looking

/-- A turn has one of the effects. -/
theorem effect_step (s : Session) (turn : Turn) : Effect s turn (s.step turn).1 (s.step turn).2 := by
  cases turn with
  | openLoad urls => exact .opened urls
  | closeLoad k t => exact effect_closeLoad s k t
  | startTask i resolver => exact effect_startTask s i resolver
  | advanceTask i => exact effect_advanceTask s i
  | cancel => exact .stopped (.inl rfl)
  | drop => exact .stopped (.inr rfl)
  | beginCycle => exact .begun

/-- What a turn may do to the task at a position: move its own lookup on, or abort it. -/
inductive TaskStep (turn : Turn) (i : Nat) (t : Task) : Task → Prop where
  | same : TaskStep turn i t t
  | aborted : TaskStep turn i t t.abort
  | started {resolver : Release.Resolver} (own : turn = .startTask i resolver)
      (waiting : t.status = .waiting) :
      TaskStep turn i t
        { t with
          status := .looking (resolver t.entry.repoUrl).requests (resolver t.entry.repoUrl).outcome }
  | asked {request : Request} {left : List Request} {outcome : Release.Outcome}
      (own : turn = .advanceTask i) (looking : t.status = .looking (request :: left) outcome) :
      TaskStep turn i t { t with status := .looking left outcome }
  | crashed (own : turn = .advanceTask i) (looking : t.status = .looking [] .crashed) :
      TaskStep turn i t { t with status := .crashed }
  | answered {release : Option Release} (own : turn = .advanceTask i)
      (looking : t.status = .looking [] (.found release)) :
      TaskStep turn i t { t with status := .done release }

/-- The tasks at other positions do not see that the status of a task is set. -/
theorem taskStep_setStatus {turn : Turn} {tasks : List Task} {i j : Nat} {t u : Task}
    {status : TaskStatus} (hi : tasks[i]? = some t) (hj : tasks[j]? = some u)
    (hown : TaskStep turn i t { t with status := status }) :
    ∃ u', (Loader.setStatus tasks i status)[j]? = some u' ∧ TaskStep turn j u u' := by
  rw [getElem?_setStatus, hj]
  by_cases h : i = j
  · subst h
    obtain rfl : t = u := Option.some.inj (hi.symm.trans hj)
    exact ⟨_, rfl, by simpa using hown⟩
  · exact ⟨u, by simp [h], .same⟩

theorem taskStep_abortAt {turn : Turn} {tasks : List Task} {positions : List Nat} {j : Nat}
    {u : Task} (hj : tasks[j]? = some u) :
    ∃ u', (abortAt positions tasks)[j]? = some u' ∧ TaskStep turn j u u' := by
  rw [getElem?_abortAt, hj]
  by_cases h : j ∈ positions
  · exact ⟨u.abort, by simp [h], .aborted⟩
  · exact ⟨u, by simp [h], .same⟩

theorem taskStep_spawn {turn : Turn} {l : Loader} {generation j : Nat} {entries : List Entry}
    {u : Task} (hj : l.tasks[j]? = some u) :
    ∃ u', (l.spawn generation entries).tasks[j]? = some u' ∧ TaskStep turn j u u' := by
  have happend : (l.tasks ++ Loader.tasksFor generation entries)[j]? = some u := by
    rw [List.getElem?_append_left (List.getElem?_eq_some_iff.mp hj).1, hj]
  unfold Loader.spawn Loader.register
  split
  · exact ⟨u, happend, .same⟩
  · exact taskStep_abortAt happend

/-- A task that was started stays where it is, and goes through one step at most. -/
theorem exists_taskStep {s s' : Session} {turn : Turn} {requests : List Request}
    (he : Effect s turn s' requests) {j : Nat} {u : Task} (hj : s.tasks[j]? = some u) :
    ∃ u', s'.tasks[j]? = some u' ∧ TaskStep turn j u u' := by
  cases he with
  | opened urls => exact taskStep_abortAt hj
  | listed asking nonempty placeholders => exact taskStep_spawn hj
  | nothing asking empty => exact ⟨u, hj, .same⟩
  | superseded asking stale => exact ⟨u, hj, .same⟩
  | started waiting => exact taskStep_setStatus waiting hj (.started rfl rfl)
  | asked looking => exact taskStep_setStatus looking hj (.asked rfl rfl)
  | crashed looking => exact taskStep_setStatus looking hj (.crashed rfl rfl)
  | answered looking => exact taskStep_setStatus looking hj (.answered rfl rfl)
  | stopped stop => exact taskStep_abortAt hj
  | begun => exact ⟨u, hj, .same⟩
  | notAsking => exact ⟨u, hj, .same⟩
  | notWaiting => exact ⟨u, hj, .same⟩
  | notLooking => exact ⟨u, hj, .same⟩

theorem status_of_spawn {l : Loader} {generation j : Nat} {entries : List Entry} {u : Task}
    (hnone : l.tasks[j]? = none) (hj : (l.spawn generation entries).tasks[j]? = some u) :
    u.status = .waiting ∨ u.status = .aborted := by
  have hnew {v : Task} (hv : (l.tasks ++ Loader.tasksFor generation entries)[j]? = some v) :
      v.status = .waiting := by
    rw [List.getElem?_append_right (List.getElem?_eq_none_iff.mp hnone), Loader.tasksFor,
      List.getElem?_map] at hv
    obtain ⟨e, -, rfl⟩ := Option.map_eq_some_iff.mp hv
    rfl
  unfold Loader.spawn Loader.register at hj
  split at hj
  · exact .inl (hnew hj)
  · rw [getElem?_abortAt] at hj
    obtain ⟨v, hv, rfl⟩ := Option.map_eq_some_iff.mp hj
    have hw := hnew hv
    split
    · exact .inr (by simp [Task.abort, Task.isActive, hw])
    · exact .inl hw

/-- A task that is new after a turn has not run. -/
theorem status_of_new {s s' : Session} {turn : Turn} {requests : List Request}
    (he : Effect s turn s' requests) {j : Nat} {u : Task} (hnone : s.tasks[j]? = none)
    (hj : s'.tasks[j]? = some u) : u.status = .waiting ∨ u.status = .aborted := by
  have hold (hlen : s'.tasks.length = s.tasks.length) : u.status = .waiting ∨ u.status = .aborted := by
    have hle := List.getElem?_eq_none_iff.mp hnone
    have hlt := (List.getElem?_eq_some_iff.mp hj).1
    omega
  cases he with
  | opened urls => exact hold (length_abortAt _ _)
  | listed asking nonempty placeholders => exact status_of_spawn (l := s.afterPost _) hnone hj
  | nothing asking empty => exact hold rfl
  | superseded asking stale => exact hold rfl
  | started waiting => exact hold (length_setStatus _ _ _)
  | asked looking => exact hold (length_setStatus _ _ _)
  | crashed looking => exact hold (length_setStatus _ _ _)
  | answered looking => exact hold (length_setStatus _ _ _)
  | stopped stop => exact hold (length_abortAt _ _)
  | begun => exact hold rfl
  | notAsking => exact hold rfl
  | notWaiting => exact hold rfl
  | notLooking => exact hold rfl

/-- What holds at the start and is kept by every effect holds after every run; the property may
speak of the turns taken so far. -/
theorem run_history {s : Session} {P : List Turn → Prop} (hstart : P [])
    (heffect : ∀ turns turn requests, P turns →
      Effect (s.run turns) turn (s.run (turns ++ [turn])) requests → P (turns ++ [turn]))
    (turns : List Turn) : P turns := by
  induction turns using List.reverseRecOn with
  | nil => exact hstart
  | append_singleton turns turn ih =>
    have he := effect_step (s.run turns) turn
    have hr : s.run (turns ++ [turn]) = ((s.run turns).step turn).1 := by rw [run_append]; rfl
    exact heffect turns turn _ ih (hr ▸ he)

theorem run_invariant {P : Session → Prop}
    (heffect : ∀ s turn s' requests, P s → Effect s turn s' requests → P s') {s : Session}
    (h : P s) (turns : List Turn) : P (s.run turns) :=
  run_history (P := fun turns => P (s.run turns)) h (fun _ _ _ h he => heffect _ _ _ _ h he) turns

end Session

end ModuleCatalog
