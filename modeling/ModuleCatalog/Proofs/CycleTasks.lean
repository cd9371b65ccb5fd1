import ModuleCatalog.Proofs.Generations

/-!
The tasks of one cycle and what they show. A task shows the entry that it was started for, resolved
by its answer once it has one; an answer that is put into the list of these entries by key comes to
stand at the place of its own task.
-/
namespace ModuleCatalog

namespace Task

/-- What the lookup of a task found, once the task is done. -/
def answer? (t : Task) : Option (Option Release) :=
  match t.status with
  | .done release => some release
  | _ => none

/-- Says whether the lookup of a task came to an answer. -/
def isDone (t : Task) : Bool :=
  t.answer?.isSome

/-- How the lookup of a task ends or has ended, if it was begun and not aborted. -/
def outcome? (t : Task) : Option Release.Outcome :=
  match t.status with
  | .looking _ outcome => some outcome
  | .done release => some (.found release)
  | .crashed => some .crashed
  | .waiting | .aborted => none

/-- The entry of a task as the listing shows it. -/
def shown (t : Task) : Entry :=
  match t.answer? with
  | some release => t.entry.resolved release
  | none => t.entry

/-- What the listing depends on: the generation of a task and the entry it shows. -/
def view (t : Task) : Nat × Entry :=
  (t.generation, t.shown)

@[simp] theorem identity_shown (t : Task) : t.shown.identity = t.entry.identity := by
  unfold shown
  split <;> simp

@[simp] theorem isVisible_shown (t : Task) : t.shown.isVisible = t.entry.isVisible := by
  unfold shown
  split <;> simp

@[simp] theorem shown_done (t : Task) (release : Option Release) :
    ({ t with status := .done release } : Task).shown = t.entry.resolved release := rfl

theorem isLoading_shown {t : Task} (h : t.entry.isLoading = true) :
    t.shown.isLoading = !t.isDone := by
  unfold shown isDone
  split
  · next release ha => simp [ha]
  · next ha => simp [ha, h]

theorem status_of_answer? {t : Task} {release : Option Release} (h : t.answer? = some release) :
    t.status = .done release := by
  unfold answer? at h
  split at h
  · next found hs => exact Option.some.inj h ▸ hs
  · cases h

theorem outcome?_of_answer? {t : Task} {release : Option Release} (h : t.answer? = some release) :
    t.outcome? = some (.found release) := by
  simp [outcome?, status_of_answer? h]

theorem answer?_of_isActive {t : Task} (h : t.isActive = true) : t.answer? = none := by
  unfold answer?
  split
  · next hs => simp [isActive, hs] at h
  · rfl

@[simp] theorem view_abort (t : Task) : t.abort.view = t.view := by
  by_cases h : t.isActive = true
  · have ha := answer?_of_isActive h
    simp [abort, h, view, shown, ha]
    rfl
  · simp [abort, h]

end Task

/-- The tasks of a generation, in the order in which they were started. -/
def tasksOf (generation : Nat) (tasks : List Task) : List Task :=
  tasks.filter fun t => t.generation == generation

theorem map_entry_tasksOf (generation : Nat) (tasks : List Task) :
    (tasksOf generation tasks).map Task.entry =
      ((tasks.map Task.origin).filter fun o => o.1 == generation).map Prod.snd := by
  rw [List.filter_map, List.map_map]
  rfl

theorem map_shown_tasksOf (generation : Nat) (tasks : List Task) :
    (tasksOf generation tasks).map Task.shown =
      ((tasks.map Task.view).filter fun v => v.1 == generation).map Prod.snd := by
  rw [List.filter_map, List.map_map]
  rfl

@[simp] theorem map_view_abortAt (positions : List Nat) (tasks : List Task) :
    (abortAt positions tasks).map Task.view = tasks.map Task.view := by
  apply List.ext_getElem?
  intro j
  rw [List.getElem?_map, List.getElem?_map, getElem?_abortAt]
  cases tasks[j]? with
  | none => rfl
  | some t => by_cases h : j ∈ positions <;> simp [h]

/-- A task that goes on without an answer shows what it showed before. -/
theorem map_view_setStatus {tasks : List Task} {i : Nat} {t : Task} {status : TaskStatus}
    (hi : tasks[i]? = some t) (hbefore : t.answer? = none)
    (hafter : ({ t with status := status } : Task).answer? = none) :
    (Loader.setStatus tasks i status).map Task.view = tasks.map Task.view := by
  apply List.ext_getElem?
  intro j
  rw [List.getElem?_map, List.getElem?_map, getElem?_setStatus]
  by_cases h : i = j
  · subst h
    rw [hi]
    simp [Task.view, Task.shown, hbefore, hafter]
  · simp [h]

theorem map_view_spawn (l : Loader) (generation : Nat) (entries : List Entry) :
    (l.spawn generation entries).tasks.map Task.view =
      l.tasks.map Task.view ++ entries.map fun e => (generation, e) := by
  have hnew : (Loader.tasksFor generation entries).map Task.view =
      entries.map fun e => (generation, e) := by
    rw [Loader.tasksFor, List.map_map]
    rfl
  unfold Loader.spawn Loader.register
  split <;> simp [hnew]

/-- Tasks that start show the entries that they were started for. -/
theorem tasksOf_spawn (l : Loader) (generation generation' : Nat) (entries : List Entry) :
    (tasksOf generation' (l.spawn generation entries).tasks).map Task.entry =
        (tasksOf generation' l.tasks).map Task.entry ++
          (if generation = generation' then entries else []) ∧
      (tasksOf generation' (l.spawn generation entries).tasks).map Task.shown =
        (tasksOf generation' l.tasks).map Task.shown ++
          (if generation = generation' then entries else []) := by
  have hnew : ((entries.map fun e => (generation, e)).filter
      fun o => o.1 == generation').map Prod.snd = if generation = generation' then entries else [] := by
    by_cases h : generation = generation' <;>
      simp [List.filter_map, Function.comp_def, h]
  constructor
  · rw [map_entry_tasksOf, map_entry_tasksOf, map_origin_spawn, List.filter_append,
      List.map_append, hnew]
  · rw [map_shown_tasksOf, map_shown_tasksOf, map_view_spawn, List.filter_append,
      List.map_append, hnew]

/-- The tasks of other generations do not see the end of a task. -/
theorem tasksOf_setStatus_of_ne {tasks : List Task} {i generation : Nat} {t : Task}
    {status : TaskStatus} (hi : tasks[i]? = some t) (hne : t.generation ≠ generation) :
    tasksOf generation (Loader.setStatus tasks i status) = tasksOf generation tasks := by
  induction tasks generalizing i with
  | nil => simp at hi
  | cons x xs ih =>
    cases i with
    | zero =>
      obtain rfl : x = t := by simpa using hi
      simp [Loader.setStatus, tasksOf, hne]
    | succ i =>
      have hrest := ih (i := i) (by simpa using hi)
      simp only [Loader.setStatus, tasksOf, List.modify_succ_cons, List.filter_cons] at hrest ⊢
      rw [hrest]

/-- Updating the list by key hits the entry of the task whose answer it is, and no other. -/
theorem replaceOrAppend_shown {tasks : List Task} {i : Nat} {t : Task} (release : Option Release)
    (hi : tasks[i]? = some t)
    (hnodup : ((tasksOf t.generation tasks).map fun u => u.entry.identity).Nodup) :
    Board.replaceOrAppend (t.entry.resolved release) ((tasksOf t.generation tasks).map Task.shown) =
      (tasksOf t.generation (Loader.setStatus tasks i (.done release))).map Task.shown := by
  induction tasks generalizing i with
  | nil => simp at hi
  | cons x xs ih =>
    cases i with
    | zero =>
      obtain rfl : x = t := by simpa using hi
      simp [Loader.setStatus, tasksOf, Board.replaceOrAppend]
    | succ i =>
      have hi' : xs[i]? = some t := by simpa using hi
      have hrest : tasksOf t.generation (Loader.setStatus (x :: xs) (i + 1) (.done release)) =
          if x.generation == t.generation
          then x :: tasksOf t.generation (Loader.setStatus xs i (.done release))
          else tasksOf t.generation (Loader.setStatus xs i (.done release)) := by
        simp only [Loader.setStatus, tasksOf, List.modify_succ_cons, List.filter_cons]
      rw [hrest]
      by_cases hx : x.generation = t.generation
      · have hxs : tasksOf t.generation (x :: xs) = x :: tasksOf t.generation xs := by
          simp [tasksOf, hx]
        rw [hxs, List.map_cons, List.nodup_cons] at hnodup
        have hmem : t ∈ tasksOf t.generation xs := by
          simp [tasksOf, List.mem_of_getElem? hi']
        have hne : x.entry.identity ≠ t.entry.identity := by
          intro he
          exact hnodup.1 (he ▸ List.mem_map_of_mem hmem)
        have hlater := ih hi' hnodup.2
        simp [hxs, hx, Board.replaceOrAppend, hne, hlater]
      · have hxs : tasksOf t.generation (x :: xs) = tasksOf t.generation xs := by
          simp [tasksOf, hx]
        rw [hxs] at hnodup ⊢
        simpa [hx] using ih hi' hnodup

end ModuleCatalog
