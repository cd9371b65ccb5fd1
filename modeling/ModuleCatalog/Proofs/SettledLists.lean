import ModuleCatalog.Proofs.Reconciliation
import ModuleCatalog.Proofs.SoloRuns

/-!
What a list has come to once every task of its cycle has ended by itself. It is the merged list with
each entry settled by the lookup of its own repository, whether the tasks ended in turns, in
whatever order, or were waited for one after another.
-/
namespace ModuleCatalog

/-- The entry after the lookup of its release: resolved by what was found, or still without a
release if the lookup crashed. -/
def Entry.settled (resolver : Release.Resolver) (e : Entry) : Entry :=
  match (resolver e.repoUrl).outcome with
  | .found release => e.placeholder.resolved release
  | .crashed => e.placeholder

@[simp] theorem Entry.settled_placeholder (resolver : Release.Resolver) (e : Entry) :
    e.placeholder.settled resolver = e.settled resolver := rfl

@[simp] theorem Entry.name_settled (resolver : Release.Resolver) (e : Entry) :
    (e.settled resolver).name = e.name := by
  unfold settled
  split
  · next release _ => cases release <;> rfl
  · rfl

@[simp] theorem Entry.id_settled (resolver : Release.Resolver) (e : Entry) :
    (e.settled resolver).id = e.id := by
  unfold settled
  split
  · next release _ => cases release <;> rfl
  · rfl

theorem Entry.isLoading_settled {resolver : Release.Resolver} {e : Entry}
    (h : (resolver e.repoUrl).outcome ≠ .crashed) : (e.settled resolver).isLoading = false := by
  unfold settled
  split
  · exact isLoading_resolved _ _
  · next hcrashed => exact absurd hcrashed h

namespace Task

/-- The task came to an end of its own. -/
def hasEnded (t : Task) : Bool :=
  match t.status with
  | .done _ | .crashed => true
  | .waiting | .looking _ _ | .aborted => false

theorem exists_outcome {t : Task} (h : t.hasEnded = true) :
    ∃ outcome, t.outcome? = some outcome := by
  cases hs : t.status <;> simp [hasEnded, outcome?, hs] at h ⊢

/-- A task that has ended shows its entry settled by its own lookup. -/
theorem shown_of_hasEnded {t : Task} {resolver : Release.Resolver} {e : Entry}
    (hentry : t.entry = e.placeholder) (hended : t.hasEnded = true)
    (houtcome : t.outcome? = some (resolver t.entry.repoUrl).outcome) :
    t.shown = e.settled resolver := by
  have hrepo : t.entry.repoUrl = e.repoUrl := by rw [hentry]; rfl
  rw [hrepo] at houtcome
  cases hs : t.status with
  | done release =>
    have ho : (resolver e.repoUrl).outcome = .found release := by
      simpa [outcome?, hs] using houtcome.symm
    simp [shown, answer?, hs, Entry.settled, ho, hentry]
  | crashed =>
    have ho : (resolver e.repoUrl).outcome = .crashed := by
      simpa [outcome?, hs] using houtcome.symm
    simp [shown, answer?, hs, Entry.settled, ho, hentry]
  | waiting => simp [hasEnded, hs] at hended
  | looking left outcome => simp [hasEnded, hs] at hended
  | aborted => simp [hasEnded, hs] at hended

end Task

theorem map_shown_of_hasEnded {tasks : List Task} {entries : List Entry}
    {resolver : Release.Resolver} (hentries : tasks.map Task.entry = entries.map Entry.placeholder)
    (hended : ∀ t ∈ tasks, t.hasEnded = true ∧
      t.outcome? = some (resolver t.entry.repoUrl).outcome) :
    tasks.map Task.shown = entries.map (Entry.settled resolver) := by
  induction tasks generalizing entries with
  | nil =>
    obtain rfl : entries = [] := by simpa using hentries.symm
    rfl
  | cons t tasks ih =>
    obtain ⟨e, entries, rfl⟩ : ∃ e es, entries = e :: es := by
      cases entries with
      | nil => cases hentries
      | cons e es => exact ⟨e, es, rfl⟩
    obtain ⟨hentry, hrest⟩ := List.cons.inj hentries
    have ht := hended t List.mem_cons_self
    rw [List.map_cons, List.map_cons, Task.shown_of_hasEnded hentry ht.1 ht.2,
      ih hrest fun u hu => hended u (List.mem_cons_of_mem _ hu)]

namespace Session

/-- In the course of the turns a load of the sources was answered by the transport and listed
entries; their cycle is still current, every lookup that was begun asked the same transport, and
every task of the cycle has ended. -/
def Completed (kind : Kind) (t : Transport) (origin : String) (urls : List String)
    (turns : List Turn) (list : List Entry) : Prop :=
  ∃ before k after generation listed,
    turns = before ++ .closeLoad k t :: after ∧
    ((new kind).run before).loads[k]? = some ⟨generation, .asking urls⟩ ∧
    ((new kind).run (before ++ [.closeLoad k t])).board.snapshot = ⟨generation, .ready listed⟩ ∧
    ((new kind).run turns).board.snapshot = ⟨generation, .ready list⟩ ∧
    (∀ j resolver, Started kind turns j resolver → resolver = Release.lookup t origin) ∧
    ∀ u ∈ tasksOf generation ((new kind).run turns).tasks, u.hasEnded = true

theorem kind_effect {s s' : Session} {turn : Turn} {requests : List Request}
    (he : Effect s turn s' requests) : s'.loader.kind = s.loader.kind := by
  cases he with
  | listed asking nonempty placeholders =>
    change (Loader.spawn _ _ _).kind = _
    unfold Loader.spawn Loader.register
    split <;> rfl
  | _ => rfl

theorem kind_run (kind : Kind) (turns : List Turn) : ((new kind).run turns).loader.kind = kind :=
  run_invariant (P := fun s => s.loader.kind = kind)
    (fun _ _ _ _ h he => (kind_effect he).trans h) rfl turns

/-- A load that listed entries listed the merged ones. -/
theorem published_of_listed {kind : Kind} {before after : List Turn} {k generation : Nat}
    {t : Transport} {urls : List String} {listed : List Entry}
    (hasking : ((new kind).run before).loads[k]? = some ⟨generation, .asking urls⟩)
    (hlisted : ((new kind).run (before ++ [.closeLoad k t])).board.snapshot =
      ⟨generation, .ready listed⟩) :
    Published kind (before ++ .closeLoad k t :: after) generation
      ((mergeFetched (fetchAll t kind urls)).map Entry.placeholder) := by
  have hkind := kind_run kind before
  rw [run_append] at hlisted
  have he := effect_step ((new kind).run before) (.closeLoad k t)
  refine ⟨before, k, t, after, rfl, urls, hasking, ?_⟩
  change (step _ _).1.board.snapshot = _ at hlisted
  rw [hlisted]
  generalize (step ((new kind).run before) (.closeLoad k t)).1 = s',
    (step ((new kind).run before) (.closeLoad k t)).2 = requests at he hlisted
  have hmerged : ((new kind).run before).mergedFrom t urls = mergeFetched (fetchAll t kind urls) := by
    rw [mergedFrom, hkind]
  cases he with
  | listed asking nonempty placeholders =>
    rw [asking] at hasking
    cases hasking
    rw [snapshot_spawn] at hlisted
    obtain rfl := Listing.ready.inj (congrArg Snapshot.listing hlisted)
    rw [← hmerged, ← placeholders]
    exact ⟨by simpa [placeholders] using nonempty, rfl, rfl⟩
  | nothing asking empty => cases congrArg Snapshot.listing hlisted
  | superseded asking stale =>
    rw [asking] at hasking
    cases hasking
    exact absurd (congrArg Snapshot.generation hlisted).symm stale
  | stopped stop => rcases stop with stop | stop <;> cases stop
  | notAsking ended => exact absurd hasking (ended _ _)

/-- Whatever the order in which the tasks ended, the list is the merged one, settled. -/
theorem Completed.list_eq {kind : Kind} {t : Transport} {origin : String} {urls : List String}
    {turns : List Turn} {list : List Entry} (h : Completed kind t origin urls turns list) :
    list = (mergeFetched (fetchAll t kind urls)).map (Entry.settled (Release.lookup t origin)) := by
  obtain ⟨before, k, after, generation, listed, rfl, hasking, hlisted, hready, hlookups, hended⟩ := h
  -- What is up is what the tasks show, and that does not depend on their order.
  rw [← faithful_run kind _ generation list hready]
  refine map_shown_of_hasEnded
    (map_entry_of_published (published_of_listed hasking hlisted)) fun u hu => ?_
  refine ⟨hended u hu, ?_⟩
  obtain ⟨outcome, ho⟩ := Task.exists_outcome (hended u hu)
  obtain ⟨j, hj⟩ := List.mem_iff_getElem?.mp (List.mem_of_mem_filter hu)
  obtain ⟨resolver, hstarted, hr⟩ := exists_started hj ho
  rw [ho, ← hr, hlookups j resolver hstarted]

end Session

namespace Loader

/-! Waiting runs every task that is waiting, so that all of them have ended. -/

/-- The status of a task whose lookup is over. -/
def statusAfter : Release.Outcome → TaskStatus
  | .found release => .done release
  | .crashed => .crashed

theorem statusAfter_ne_waiting (outcome : Release.Outcome) : statusAfter outcome ≠ .waiting := by
  cases outcome <;> exact nofun

theorem tasks_afterLookup (l : Loader) (i generation : Nat) (entry : Entry)
    (outcome : Release.Outcome) :
    (Session.afterLookup l i generation entry outcome).tasks =
      setStatus l.tasks i (statusAfter outcome) := by
  cases outcome <;> rfl

section Wait

variable (resolver : Release.Resolver)

/-- The task after its lookup, if it was waiting for it. -/
def ended (t : Task) : Task :=
  match t.status with
  | .waiting => { t with status := statusAfter (resolver t.entry.repoUrl).outcome }
  | _ => t

theorem ended_of_waiting {t : Task} (h : t.status = .waiting) :
    ended resolver t = { t with status := statusAfter (resolver t.entry.repoUrl).outcome } := by
  simp [ended, h]

theorem ended_of_started {t : Task} (h : t.status ≠ .waiting) : ended resolver t = t := by
  unfold ended
  split
  · next hs => exact absurd hs h
  · rfl

theorem ended_ended (t : Task) : ended resolver (ended resolver t) = ended resolver t := by
  by_cases h : t.status = .waiting
  · rw [ended_of_waiting resolver h, ended_of_started]
    exact statusAfter_ne_waiting _
  · rw [ended_of_started resolver h, ended_of_started resolver h]

theorem tasks_runTask (l : Loader) (i : Nat) :
    (l.runTask resolver i).1.tasks = l.tasks.modify i (ended resolver) := by
  apply List.ext_getElem?
  intro j
  rw [List.getElem?_modify]
  by_cases hw : ∃ generation entry, l.tasks[i]? = some ⟨generation, entry, .waiting⟩
  · obtain ⟨generation, entry, hi⟩ := hw
    rw [Session.runTask_of_waiting hi, tasks_afterLookup, getElem?_setStatus]
    by_cases hij : i = j
    · subst hij
      simp [hi, ended_of_waiting]
    · simp [hij]
  · rw [Session.runTask_of_started fun generation entry hi => hw ⟨generation, entry, hi⟩]
    by_cases hij : i = j
    · subst hij
      cases hi : l.tasks[i]? with
      | none => rfl
      | some t =>
        have hs : t.status ≠ .waiting := by
          rintro hs
          exact hw ⟨t.generation, t.entry, by rw [hi, ← hs]⟩
        simp [ended_of_started resolver hs]
    · simp [hij]

theorem getElem?_tasks_runTasks (positions : List Nat) (l : Loader) (j : Nat) :
    (runTasks resolver positions l).1.tasks[j]? =
      (l.tasks[j]?).map fun t => if j ∈ positions then ended resolver t else t := by
  induction positions generalizing l with
  | nil => simp [runTasks]
  | cons i positions ih =>
    change (runTasks resolver positions (l.runTask resolver i).1).1.tasks[j]? = _
    rw [ih, tasks_runTask, List.getElem?_modify]
    cases l.tasks[j]? with
    | none => rfl
    | some t =>
      by_cases hij : i = j
      · by_cases hj : j ∈ positions <;> simp [hij, hj, ended_ended]
      · by_cases hj : j ∈ positions <;> simp [hij, hj, Ne.symm hij]

theorem tasks_wait (l : Loader) : (l.wait resolver).1.tasks = l.tasks.map (ended resolver) := by
  apply List.ext_getElem?
  intro j
  rw [wait, getElem?_tasks_runTasks, List.getElem?_map]
  cases hj : l.tasks[j]? with
  | none => rfl
  | some t =>
    have hlt : j < l.tasks.length := (List.getElem?_eq_some_iff.mp hj).1
    simp [hlt]

variable {resolver}

/-- A list stays up while tasks run, as long as nobody begins another cycle. -/
theorem ready_runTask (hquiet : ∀ repo, (resolver repo).begins = 0) {l : Loader} (i : Nat)
    {generation : Nat} {entries : List Entry}
    (h : l.board.snapshot = ⟨generation, .ready entries⟩) :
    ∃ entries', (l.runTask resolver i).1.board.snapshot = ⟨generation, .ready entries'⟩ := by
  by_cases hw : ∃ g entry, l.tasks[i]? = some ⟨g, entry, .waiting⟩
  · obtain ⟨g, entry, hi⟩ := hw
    rw [Session.runTask_of_waiting hi]
    simp only [hquiet, Board.beginTimes]
    cases (resolver entry.repoUrl).outcome with
    | crashed => exact ⟨entries, h⟩
    | found release =>
      change ∃ entries', (l.board.update g (entry.resolved release)).1.snapshot = _
      by_cases hg : g = l.board.generation
      · have hready : l.board.snapshot.listing = .ready entries := congrArg Snapshot.listing h
        have hgeneration : l.board.generation = generation := congrArg Snapshot.generation h
        rw [hg, Board.update_ready hready, hgeneration]
        exact ⟨_, rfl⟩
      · rw [Board.update_stale hg]
        exact ⟨entries, h⟩
  · rw [Session.runTask_of_started fun g entry hi => hw ⟨g, entry, hi⟩]
    exact ⟨entries, h⟩

theorem ready_runTasks (hquiet : ∀ repo, (resolver repo).begins = 0) (positions : List Nat)
    {l : Loader} {generation : Nat} {entries : List Entry}
    (h : l.board.snapshot = ⟨generation, .ready entries⟩) :
    ∃ entries', (runTasks resolver positions l).1.board.snapshot =
      ⟨generation, .ready entries'⟩ := by
  induction positions generalizing l entries with
  | nil => exact ⟨entries, h⟩
  | cons i positions ih =>
    obtain ⟨between, hbetween⟩ := ready_runTask hquiet i h
    exact ih hbetween

end Wait

theorem load_new_listed {kind : Kind} {t : Transport} {urls : List String}
    (hquiet : ∀ url, (t.text url).begins = 0)
    (hmerged : mergeFetched (fetchAll t kind urls) ≠ []) :
    let entries := (mergeFetched (fetchAll t kind urls)).map Entry.placeholder
    let loaded := (new kind).load t urls
    loaded.outcome = .listed (mergeFetched (fetchAll t kind urls)).length ∧
      loaded.loader.board.snapshot = ⟨1, .ready entries⟩ ∧
      loaded.loader.tasks = tasksFor 1 entries := by
  have hnone : beginsMeanwhile t urls = 0 := by simp [beginsMeanwhile, hquiet]
  have hload := load_listed (l := new kind) hnone hmerged
  intro entries loaded
  refine ⟨congrArg Loaded.outcome hload, ?_, ?_⟩
  · simp only [loaded, hload, board_spawn]
    rfl
  · simp only [loaded, hload]
    exact tasks_spawn rfl _

theorem shown_ended_of_waiting (resolver : Release.Resolver) (generation : Nat) (e : Entry) :
    (ended resolver ⟨generation, e.placeholder, .waiting⟩).shown = e.settled resolver := by
  have hrepo : e.placeholder.repoUrl = e.repoUrl := rfl
  rw [ended_of_waiting resolver rfl, hrepo]
  cases ho : (resolver e.repoUrl).outcome <;>
    simp [statusAfter, Task.shown, Task.answer?, Entry.settled, ho]

theorem generation_ended (resolver : Release.Resolver) (t : Task) :
    (ended resolver t).generation = t.generation := by
  unfold ended
  split <;> rfl

/-- The tasks of a fresh list show it settled once they have ended. -/
theorem map_shown_ended (resolver : Release.Resolver) (generation : Nat) (entries : List Entry) :
    (tasksOf generation
        ((tasksFor generation (entries.map Entry.placeholder)).map (ended resolver))).map Task.shown =
      entries.map (Entry.settled resolver) := by
  induction entries with
  | nil => rfl
  | cons e entries ih =>
    have hhead : (ended resolver ⟨generation, e.placeholder, .waiting⟩).generation = generation :=
      generation_ended resolver _
    simp only [tasksFor, tasksOf, List.map_cons] at ih ⊢
    rw [List.filter_cons_of_pos (by simp [hhead]), List.map_cons, ih, shown_ended_of_waiting]

/-- A load that is waited for leaves the merged list up, settled. -/
theorem wait_load {kind : Kind} {t : Transport} {urls : List String} {resolver : Release.Resolver}
    (hsources : ∀ url, (t.text url).begins = 0) (hlookups : ∀ repo, (resolver repo).begins = 0)
    (hmerged : mergeFetched (fetchAll t kind urls) ≠ []) :
    (((new kind).load t urls).loader.wait resolver).1.board.snapshot =
      ⟨1, .ready ((mergeFetched (fetchAll t kind urls)).map (Entry.settled resolver))⟩ := by
  obtain ⟨-, hboard, htasks⟩ := load_new_listed hsources hmerged
  let last := (((new kind).load t urls).loader.wait resolver).1
  obtain ⟨list, hlist⟩ : ∃ list, last.board.snapshot = ⟨1, .ready list⟩ :=
    ready_runTasks hlookups _ hboard
  -- Loading and waiting is a run of turns, so that the list shows the tasks as it does after any run.
  obtain ⟨turns, hrun, -⟩ := (Session.runs_load (new kind) [] t urls).trans
    (Session.runs_runTasks resolver (List.range ((new kind).load t urls).loader.tasks.length) _ _)
  have hfaithful : Session.Faithful ⟨last, _⟩ := hrun ▸ Session.faithful_run kind turns
  have hshown : (tasksOf 1 last.tasks).map Task.shown = list := hfaithful 1 list hlist
  rw [tasks_wait, htasks, map_shown_ended] at hshown
  rw [hshown]
  exact hlist

end Loader

end ModuleCatalog
