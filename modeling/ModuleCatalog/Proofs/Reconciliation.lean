import ModuleCatalog.Proofs.CycleTasks
import ModuleCatalog.Proofs.Merge

/-!
How the list of a cycle takes in the answers of its tasks. Whatever the order in which the tasks
end, the list is the published one with the entry of every task that is done resolved by its answer.
-/
namespace ModuleCatalog

namespace Session

/-- Closing a load of a generation on its sources' answers puts up the entries. -/
def Publishes (s : Session) (k : Nat) (t : Transport) (generation : Nat) (entries : List Entry) :
    Prop :=
  ∃ urls, s.loads[k]? = some ⟨generation, .asking urls⟩ ∧ entries ≠ [] ∧
    entries = (s.mergedFrom t urls).map Entry.placeholder ∧
    (s.step (.closeLoad k t)).1.board.snapshot = ⟨generation, .ready entries⟩

/-- In the course of the turns the load of a generation put up the entries. -/
def Published (kind : Kind) (turns : List Turn) (generation : Nat) (entries : List Entry) : Prop :=
  ∃ before k t after, turns = before ++ .closeLoad k t :: after ∧
    ((new kind).run before).Publishes k t generation entries

theorem Published.append {kind : Kind} {turns : List Turn} {generation : Nat}
    {entries : List Entry} (h : Published kind turns generation entries) (turn : Turn) :
    Published kind (turns ++ [turn]) generation entries := by
  obtain ⟨before, k, t, after, rfl, hp⟩ := h
  exact ⟨before, k, t, after ++ [turn], by simp, hp⟩

theorem published_append {kind : Kind} {turns : List Turn} {turn : Turn} {generation : Nat}
    {entries : List Entry} (h : Published kind (turns ++ [turn]) generation entries) :
    Published kind turns generation entries ∨
      ∃ k t, turn = .closeLoad k t ∧ ((new kind).run turns).Publishes k t generation entries := by
  obtain ⟨before, k, t, after, he, hp⟩ := h
  rcases List.eq_nil_or_concat after with rfl | ⟨after, last, rfl⟩
  · obtain ⟨rfl, hturn⟩ := List.append_inj' he rfl
    exact .inr ⟨k, t, by simpa using hturn, hp⟩
  · rw [List.concat_eq_append, ← List.cons_append, ← List.append_assoc] at he
    obtain ⟨rfl, -⟩ := List.append_inj' he rfl
    exact .inl ⟨before, k, t, after, rfl, hp⟩

/-- A load that puts up entries is that of the current cycle, and starts one task for each. -/
theorem Publishes.step_eq {s : Session} {k generation : Nat} {t : Transport} {entries : List Entry}
    (hp : s.Publishes k t generation entries) :
    s.board.generation = generation ∧ (s.step (.closeLoad k t)).1 =
      s.afterLoad k generation (.listed entries.length)
        ((s.afterPost (.ready entries)).spawn generation entries) := by
  obtain ⟨urls, hk, -, rfl, hsnapshot⟩ := hp
  have he := effect_step s (.closeLoad k t)
  generalize (s.step (.closeLoad k t)).1 = s', (s.step (.closeLoad k t)).2 = requests at he hsnapshot ⊢
  cases he with
  | listed asking nonempty placeholders =>
    rw [asking] at hk
    cases hk
    exact ⟨rfl, by rw [placeholders]⟩
  | nothing asking empty => cases congrArg Snapshot.listing hsnapshot
  | superseded asking stale =>
    rw [asking] at hk
    cases hk
    exact absurd (congrArg Snapshot.generation hsnapshot).symm stale
  | stopped stop => rcases stop with stop | stop <;> cases stop
  | notAsking ended => exact absurd hk (ended _ _)

/-- A load whose sources are still being asked has no tasks yet. -/
theorem Consistent.tasksOf_eq_nil {s : Session} (h : Consistent s) {k generation : Nat}
    {urls : List String} (hk : s.loads[k]? = some ⟨generation, .asking urls⟩) :
    tasksOf generation s.tasks = [] := by
  apply List.filter_eq_nil_iff.mpr
  intro u hu
  simpa using h.fresh _ (List.mem_of_getElem? hk) urls rfl u hu

/-- What the tasks of a cycle were started for stays as it is once there are any. -/
theorem map_entry_tasksOf_effect {s s' : Session} {turn : Turn} {requests : List Request}
    (h : Consistent s) (he : Effect s turn s' requests) {generation : Nat}
    (hne : tasksOf generation s.tasks ≠ []) :
    (tasksOf generation s'.tasks).map Task.entry =
      (tasksOf generation s.tasks).map Task.entry := by
  have hsame (ht : s'.tasks.map Task.origin = s.tasks.map Task.origin) :
      (tasksOf generation s'.tasks).map Task.entry =
        (tasksOf generation s.tasks).map Task.entry := by
    rw [map_entry_tasksOf, map_entry_tasksOf, ht]
  cases he with
  | opened urls => exact hsame (map_origin_abortAt _ _)
  | listed asking nonempty placeholders =>
    have hother : generation ≠ s.board.generation := by
      rintro rfl
      exact hne (h.tasksOf_eq_nil asking)
    refine (tasksOf_spawn _ _ _ _).1.trans ?_
    rw [if_neg hother.symm, List.append_nil]
    rfl
  | nothing asking empty => exact hsame rfl
  | superseded asking stale => exact hsame rfl
  | started waiting => exact hsame (map_origin_setStatus _ _ _)
  | asked looking => exact hsame (map_origin_setStatus _ _ _)
  | crashed looking => exact hsame (map_origin_setStatus _ _ _)
  | answered looking => exact hsame (map_origin_setStatus _ _ _)
  | stopped stop => exact hsame (map_origin_abortAt _ _)
  | begun => exact hsame rfl
  | notAsking => exact hsame rfl
  | notWaiting => exact hsame rfl
  | notLooking => exact hsame rfl

/-- The tasks of a cycle are those of the entries that its load put up, in their order. -/
theorem map_entry_of_published {kind : Kind} {turns : List Turn} {generation : Nat}
    {entries : List Entry} (h : Published kind turns generation entries) :
    (tasksOf generation ((new kind).run turns).tasks).map Task.entry = entries := by
  revert h
  apply run_history (s := new kind) (P := fun turns =>
    Published kind turns generation entries →
      (tasksOf generation ((new kind).run turns).tasks).map Task.entry = entries)
  · rintro ⟨before, k, t, after, he, -⟩
    cases before <;> cases he
  · intro turns turn requests ih he hp
    have hc := consistent_run kind turns
    rcases published_append hp with hold | ⟨k, t, rfl, hnew⟩
    · have hmap := ih hold
      rw [map_entry_tasksOf_effect hc he, hmap]
      intro hnil
      obtain ⟨-, -, -, -, -, -, -, hne, -⟩ := hold
      exact hne (by rw [← hmap, hnil, List.map_nil])
    · obtain ⟨urls, hk, -⟩ := id hnew
      rw [run_append]
      change (tasksOf generation (step _ _).1.tasks).map Task.entry = entries
      rw [hnew.step_eq.2]
      refine (tasksOf_spawn _ _ _ _).1.trans ?_
      change (tasksOf generation ((new kind).run turns).tasks).map Task.entry ++ _ = _
      rw [hc.tasksOf_eq_nil hk, if_pos rfl, List.map_nil, List.nil_append]

theorem snapshot_spawn (s : Session) (k generation : Nat) (outcome : LoadOutcome)
    (listing : Listing) (entries : List Entry) :
    (s.afterLoad k generation outcome
      ((s.afterPost listing).spawn generation entries)).board.snapshot =
        ⟨s.board.generation, listing⟩ := by
  change (Loader.spawn _ _ _).board.snapshot = _
  rw [Loader.board_spawn]
  rfl

/-- An update leaves a list up only where one of the same cycle was up. -/
theorem ready_of_update {b : Board} {generation g : Nat} {e : Entry} {list : List Entry}
    (h : (b.update generation e).1.snapshot = ⟨g, .ready list⟩) :
    ∃ entries, b.snapshot = ⟨g, .ready entries⟩ := by
  by_cases hr : ∃ entries, b.snapshot.listing = .ready entries
  · obtain ⟨entries, hr⟩ := hr
    have hg : b.generation = g := by
      rw [← Board.generation_update b generation e]
      exact congrArg Snapshot.generation h
    exact ⟨entries, by rw [← hg, ← hr]; rfl⟩
  · rw [Board.update_not_ready (not_exists.mp hr)] at h
    exact absurd ⟨list, congrArg Snapshot.listing h⟩ hr

/-- A list that is up was put up by the load of its cycle. -/
theorem exists_published {kind : Kind} {turns : List Turn} {generation : Nat} {list : List Entry}
    (h : ((new kind).run turns).board.snapshot = ⟨generation, .ready list⟩) :
    ∃ entries, Published kind turns generation entries := by
  revert list
  apply run_history (s := new kind) (P := fun turns => ∀ {list},
    ((new kind).run turns).board.snapshot = ⟨generation, .ready list⟩ →
      ∃ entries, Published kind turns generation entries)
  · intro list h
    cases congrArg Snapshot.listing h
  · intro turns turn requests ih he list h
    have hold (hs : ∃ list, ((new kind).run turns).board.snapshot = ⟨generation, .ready list⟩) :
        ∃ entries, Published kind (turns ++ [turn]) generation entries := by
      obtain ⟨list, hs⟩ := hs
      obtain ⟨entries, hp⟩ := ih hs
      exact ⟨entries, hp.append turn⟩
    have hrun : (new kind).run (turns ++ [turn]) = (((new kind).run turns).step turn).1 :=
      run_append _ _ _
    rw [hrun] at he h
    generalize hs' : (((new kind).run turns).step turn).1 = s' at he h
    cases he with
    | opened urls => cases congrArg Snapshot.listing h
    | @listed k t urls entries asking nonempty placeholders =>
      rw [snapshot_spawn] at h
      obtain rfl := congrArg Snapshot.generation h
      refine ⟨entries, turns, k, t, [], rfl, urls, asking, by simp [placeholders, nonempty],
        placeholders, ?_⟩
      rw [hs', snapshot_spawn]
    | nothing asking empty => cases congrArg Snapshot.listing h
    | superseded asking stale => exact hold ⟨list, h⟩
    | started waiting => exact hold ⟨list, h⟩
    | asked looking => exact hold ⟨list, h⟩
    | crashed looking => exact hold ⟨list, h⟩
    | answered looking => exact hold (ready_of_update h)
    | stopped stop => exact hold ⟨list, h⟩
    | begun => cases congrArg Snapshot.listing h
    | notAsking => exact hold ⟨list, h⟩
    | notWaiting => exact hold ⟨list, h⟩
    | notLooking => exact hold ⟨list, h⟩

/-- The entries of a published list are the placeholders of a merged one. -/
theorem Published.exists_merge {kind : Kind} {turns : List Turn} {generation : Nat}
    {entries : List Entry} (h : Published kind turns generation entries) :
    ∃ lists, entries = (Catalog.merge lists).map Entry.placeholder := by
  obtain ⟨before, k, t, after, -, urls, -, -, he, -⟩ := h
  exact ⟨_, he⟩

theorem Published.nodup_identity {kind : Kind} {turns : List Turn} {generation : Nat}
    {entries : List Entry} (h : Published kind turns generation entries) :
    (entries.map Entry.identity).Nodup := by
  obtain ⟨lists, rfl⟩ := h.exists_merge
  simpa [List.map_map, Function.comp_def] using Catalog.nodup_identity_merge lists

/-- A list that is up shows what the tasks of its cycle have come to. -/
def Faithful (s : Session) : Prop :=
  ∀ generation list, s.board.snapshot = ⟨generation, .ready list⟩ →
    (tasksOf generation s.tasks).map Task.shown = list

theorem Faithful.of_view {s s' : Session} (h : Faithful s) (hb : s'.board = s.board)
    (ht : s'.tasks.map Task.view = s.tasks.map Task.view) : Faithful s' := by
  intro generation list hs
  rw [map_shown_tasksOf, ht, ← map_shown_tasksOf]
  exact h generation list (hb ▸ hs)

/-- The answer of a task goes to its own entry, or nowhere if its cycle is over. -/
theorem Faithful.answered {s : Session} (h : Faithful s) {i generation : Nat} {entry : Entry}
    {release : Option Release}
    (hi : s.tasks[i]? = some ⟨generation, entry, .looking [] (.found release)⟩)
    (hnodup : ∀ list, s.board.snapshot = ⟨generation, .ready list⟩ →
      ((tasksOf generation s.tasks).map fun u => u.entry.identity).Nodup) :
    Faithful ⟨{ s.loader with
      board := (s.board.update generation (entry.resolved release)).1
      tasks := Loader.setStatus s.tasks i (.done release) }, s.loads⟩ := by
  intro g list hs
  change (s.board.update generation (entry.resolved release)).1.snapshot = _ at hs
  change (tasksOf g (Loader.setStatus s.tasks i (.done release))).map Task.shown = list
  by_cases hg : generation = s.board.generation
  · subst hg
    obtain ⟨entries, hready⟩ := ready_of_update hs
    have hr : s.board.snapshot.listing = .ready entries := congrArg Snapshot.listing hready
    have hcurrent : s.board.snapshot = ⟨s.board.generation, .ready entries⟩ := by rw [← hr]; rfl
    obtain rfl := h s.board.generation entries hcurrent
    rw [Board.update_ready hr] at hs
    obtain ⟨rfl, hlist⟩ : s.board.generation = g ∧ _ = list := by simpa [Board.post] using hs
    exact (replaceOrAppend_shown release hi (hnodup _ hcurrent)).symm.trans hlist
  · rw [Board.update_stale hg] at hs
    have hcurrent : s.board.generation = g := congrArg Snapshot.generation hs
    rw [tasksOf_setStatus_of_ne hi (by rw [← hcurrent]; exact hg)]
    exact h g list hs

/-- A fresh list shows its own entries, since none of its tasks has run. -/
theorem faithful_listed {s : Session} (hc : Consistent s) {k : Nat} {urls : List String}
    {outcome : LoadOutcome} {entries : List Entry}
    (asking : s.loads[k]? = some ⟨s.board.generation, .asking urls⟩) :
    Faithful (s.afterLoad k s.board.generation outcome
      ((s.afterPost (.ready entries)).spawn s.board.generation entries)) := by
  intro g list hs
  rw [snapshot_spawn] at hs
  obtain rfl := congrArg Snapshot.generation hs
  obtain rfl : entries = list := Listing.ready.inj (congrArg Snapshot.listing hs)
  refine (tasksOf_spawn _ _ _ _).2.trans ?_
  change (tasksOf s.board.generation s.tasks).map Task.shown ++ _ = _
  rw [hc.tasksOf_eq_nil asking, if_pos rfl, List.map_nil, List.nil_append]

theorem faithful_run (kind : Kind) (turns : List Turn) : Faithful ((new kind).run turns) := by
  apply run_history (s := new kind) (P := fun turns => Faithful ((new kind).run turns))
  · intro generation list h
    cases congrArg Snapshot.listing h
  · intro turns turn requests h he
    have hnodup (generation : Nat) (list : List Entry)
        (hs : ((new kind).run turns).board.snapshot = ⟨generation, .ready list⟩) :
        ((tasksOf generation ((new kind).run turns).tasks).map fun u => u.entry.identity).Nodup := by
      obtain ⟨entries, hp⟩ := exists_published hs
      have hkeys := hp.nodup_identity
      rwa [← map_entry_of_published hp, List.map_map] at hkeys
    have hc := consistent_run kind turns
    generalize (new kind).run turns = s at *
    generalize (new kind).run (turns ++ [turn]) = s' at *
    cases he with
    | opened urls =>
      intro generation list hs
      cases congrArg Snapshot.listing hs
    | listed asking nonempty placeholders => exact faithful_listed hc asking
    | nothing asking empty =>
      intro generation list hs
      cases congrArg Snapshot.listing hs
    | superseded asking stale => exact h.of_view rfl rfl
    | started waiting => exact h.of_view rfl (map_view_setStatus waiting rfl rfl)
    | asked looking => exact h.of_view rfl (map_view_setStatus looking rfl rfl)
    | crashed looking => exact h.of_view rfl (map_view_setStatus looking rfl rfl)
    | answered looking => exact h.answered looking (hnodup _)
    | stopped stop => exact h.of_view rfl (map_view_abortAt _ _)
    | begun =>
      intro generation list hs
      cases congrArg Snapshot.listing hs
    | notAsking => exact h
    | notWaiting => exact h
    | notLooking => exact h

/-- In the course of the turns the task at a position began its lookup with the resolver. -/
def Started (kind : Kind) (turns : List Turn) (j : Nat) (resolver : Release.Resolver) : Prop :=
  ∃ before after t, turns = before ++ .startTask j resolver :: after ∧
    ((new kind).run before).tasks[j]? = some t ∧ t.status = .waiting

theorem Started.append {kind : Kind} {turns : List Turn} {j : Nat} {resolver : Release.Resolver}
    (h : Started kind turns j resolver) (turn : Turn) :
    Started kind (turns ++ [turn]) j resolver := by
  obtain ⟨before, after, t, rfl, ht⟩ := h
  exact ⟨before, after ++ [turn], t, by simp, ht⟩

/-- The outcome that a task carries is what the resolver of its own lookup gave for its repository.
-/
theorem exists_started {kind : Kind} {turns : List Turn} {j : Nat} {t : Task}
    {outcome : Release.Outcome} (hj : ((new kind).run turns).tasks[j]? = some t)
    (ho : t.outcome? = some outcome) :
    ∃ resolver, Started kind turns j resolver ∧ (resolver t.entry.repoUrl).outcome = outcome := by
  revert t outcome
  apply run_history (s := new kind) (P := fun turns => ∀ {t : Task} {outcome : Release.Outcome},
    ((new kind).run turns).tasks[j]? = some t → t.outcome? = some outcome →
      ∃ resolver, Started kind turns j resolver ∧ (resolver t.entry.repoUrl).outcome = outcome)
  · intro t outcome hj
    cases hj
  · intro turns turn requests ih he t outcome hj ho
    cases hs : ((new kind).run turns).tasks[j]? with
    | none =>
      rcases status_of_new he hs hj with hw | hw <;> simp [Task.outcome?, hw] at ho
    | some u =>
      obtain ⟨u', hu', hstep⟩ := exists_taskStep he hs
      obtain rfl : u' = t := Option.some.inj (hu'.symm.trans hj)
      have hold (hu : u.outcome? = some outcome) :
          ∃ resolver, Started kind (turns ++ [turn]) j resolver ∧
            (resolver u.entry.repoUrl).outcome = outcome := by
        obtain ⟨resolver, hm, hr⟩ := ih hs hu
        exact ⟨resolver, hm.append turn, hr⟩
      cases hstep with
      | same => exact hold ho
      | aborted =>
        rw [Task.entry_abort]
        by_cases ha : u.isActive = true
        · simp [Task.abort, ha, Task.outcome?] at ho
        · exact hold (by simpa [Task.abort, ha] using ho)
      | @started resolver own waiting =>
        exact ⟨resolver, ⟨turns, [], u, by rw [own], hs, waiting⟩, Option.some.inj ho⟩
      | asked own looking => exact hold (by simpa [Task.outcome?, looking] using ho)
      | crashed own looking => exact hold (by simpa [Task.outcome?, looking] using ho)
      | answered own looking => exact hold (by simpa [Task.outcome?, looking] using ho)

/-- What a list that is up owes to its cycle: which load put it up, which tasks it has taken the
answers of, and which it still waits for. -/
structure Reconciled (kind : Kind) (turns : List Turn) (generation : Nat)
    (list placeholders : List Entry) : Prop where
  published : Published kind turns generation placeholders
  unique : ∀ other, Published kind turns generation other → other = placeholders
  one_task_each :
    (tasksOf generation ((new kind).run turns).tasks).map Task.entry = placeholders
  length_eq : list.length = placeholders.length
  nodup_identity : (list.map Entry.identity).Nodup
  all_visible : ∀ e ∈ list, e.isVisible = true
  entry_eq : ∀ (i : Nat) (e : Entry), placeholders[i]? = some e →
    ∃ j t, ((new kind).run turns).tasks[j]? = some t ∧
      (tasksOf generation ((new kind).run turns).tasks)[i]? = some t ∧
      (t.isDone = false ∧ list[i]? = some e ∨
        ∃ resolver release, t.status = .done release ∧ Started kind turns j resolver ∧
          (resolver e.repoUrl).outcome = .found release ∧
          list[i]? = some (e.resolved release))
  pending_eq : (Listing.ready list).pending =
    (tasksOf generation ((new kind).run turns).tasks).countP fun t => !t.isDone
  all_done : ∀ answers : String → Option Release,
    (∀ j resolver repo release, Started kind turns j resolver →
      (resolver repo).outcome = .found release → release = answers repo) →
    (∀ t ∈ tasksOf generation ((new kind).run turns).tasks, t.isDone = true) →
    list = placeholders.map fun e => Entry.resolved e (answers e.repoUrl)

/-- Every entry of a published list is shown, and is loading until its task is done. -/
theorem Published.placeholder {kind : Kind} {turns : List Turn} {generation : Nat}
    {entries : List Entry} (h : Published kind turns generation entries) {e : Entry}
    (he : e ∈ entries) : e.isVisible = true ∧ e.isLoading = true := by
  obtain ⟨lists, rfl⟩ := h.exists_merge
  obtain ⟨x, hx, rfl⟩ := List.mem_map.mp he
  exact ⟨(Entry.isVisible_placeholder x).trans (Catalog.isVisible_of_mem_merge hx), rfl⟩

/-- Each position of the list shows the entry of its own task. -/
theorem entry_of_ready {kind : Kind} {turns : List Turn} {generation i : Nat} {e : Entry}
    {list : List Entry}
    (hready : ((new kind).run turns).board.snapshot = ⟨generation, .ready list⟩)
    (he : ((tasksOf generation ((new kind).run turns).tasks).map Task.entry)[i]? = some e) :
    ∃ j t, ((new kind).run turns).tasks[j]? = some t ∧
      (tasksOf generation ((new kind).run turns).tasks)[i]? = some t ∧
      (t.isDone = false ∧ list[i]? = some e ∨
        ∃ resolver release, t.status = .done release ∧ Started kind turns j resolver ∧
          (resolver e.repoUrl).outcome = .found release ∧
          list[i]? = some (e.resolved release)) := by
  rw [List.getElem?_map] at he
  obtain ⟨t, ht, rfl⟩ := Option.map_eq_some_iff.mp he
  have hmem : t ∈ ((new kind).run turns).tasks := List.mem_of_mem_filter (List.mem_of_getElem? ht)
  obtain ⟨j, hj⟩ := List.mem_iff_getElem?.mp hmem
  have hlist : list[i]? = some t.shown := by
    rw [← faithful_run kind turns _ _ hready, List.getElem?_map, ht]
    rfl
  refine ⟨j, t, hj, ht, ?_⟩
  cases ha : t.answer? with
  | none => exact .inl ⟨by simp [Task.isDone, ha], by rw [hlist, Task.shown, ha]⟩
  | some release =>
    obtain ⟨resolver, hm, hr⟩ := exists_started hj (Task.outcome?_of_answer? ha)
    exact .inr ⟨resolver, release, Task.status_of_answer? ha, hm, hr, by rw [hlist, Task.shown, ha]⟩

/-- Once every task of a cycle is done, the order in which they ended has left no trace. -/
theorem list_of_all_done {kind : Kind} {turns : List Turn} {generation : Nat} {list : List Entry}
    (hready : ((new kind).run turns).board.snapshot = ⟨generation, .ready list⟩)
    {answers : String → Option Release}
    (hanswers : ∀ j resolver repo release, Started kind turns j resolver →
      (resolver repo).outcome = .found release → release = answers repo)
    (hdone : ∀ t ∈ tasksOf generation ((new kind).run turns).tasks, t.isDone = true) :
    list = ((tasksOf generation ((new kind).run turns).tasks).map Task.entry).map
      fun e => e.resolved (answers e.repoUrl) := by
  rw [← faithful_run kind turns _ _ hready, List.map_map]
  apply List.map_congr_left
  intro t ht
  obtain ⟨release, ha⟩ := Option.isSome_iff_exists.mp (hdone t ht)
  obtain ⟨j, hj⟩ := List.mem_iff_getElem?.mp (List.mem_of_mem_filter ht)
  obtain ⟨resolver, hm, hr⟩ := exists_started hj (Task.outcome?_of_answer? ha)
  rw [Task.shown, ha, hanswers j resolver _ release hm hr]
  rfl

/-- In every run, a list that is up is the one that the load of its cycle put up, with the entry of
each task that is done resolved by its own answer and every other entry untouched. -/
theorem reconciled_of_ready (kind : Kind) (turns : List Turn) (generation : Nat)
    (list : List Entry)
    (h : ((new kind).run turns).board.snapshot = ⟨generation, .ready list⟩) :
    ∃ placeholders, Reconciled kind turns generation list placeholders := by
  obtain ⟨placeholders, hp⟩ := exists_published h
  have hentries := map_entry_of_published hp
  have hshown := faithful_run kind turns generation list h
  have hkeys : list.map Entry.identity = placeholders.map Entry.identity := by
    rw [← hshown, ← hentries]
    simp [Function.comp_def]
  refine ⟨placeholders, hp, ?_, hentries, ?_, ?_, ?_, ?_, ?_, ?_⟩
  · intro other ho
    exact (map_entry_of_published ho).symm.trans hentries
  · simpa using congrArg List.length hkeys
  · rw [hkeys]
    exact hp.nodup_identity
  · intro e he
    rw [← hshown] at he
    obtain ⟨t, ht, rfl⟩ := List.mem_map.mp he
    rw [Task.isVisible_shown]
    exact (hp.placeholder (hentries ▸ List.mem_map_of_mem ht)).1
  · intro i e he
    exact entry_of_ready h (hentries ▸ he)
  · rw [Listing.pending, Listing.entries?, Option.getD_some, ← hshown, List.countP_map]
    apply List.countP_congr
    intro t ht
    have hloading := (hp.placeholder (hentries ▸ List.mem_map_of_mem ht)).2
    simp [Task.isLoading_shown hloading]
  · intro answers hanswers hdone
    rw [← hentries]
    exact list_of_all_done h hanswers hdone

/-- Three modules are listed. The lookups of the first two end in the other order than they were
started, each with the release of its own repository, and everything is given up before the third is
looked up. -/
def crossedLookups : List Turn :=
  let resolver : Release.Resolver := fun repo => ⟨[], 0, .found (some ⟨"of-" ++ repo, repo ++ ".zip"⟩)⟩
  [.openLoad ["u"],
    .closeLoad 0 ⟨fun _ => ⟨0, .got ("[\x7b\"id\":\"a\",\"repoUrl\":\"r\"\x7d," ++
      "\x7b\"id\":\"b\",\"repoUrl\":\"s\"\x7d,\x7b\"id\":\"c\"\x7d]")⟩, fun _ => ⟨0, .got none⟩⟩,
    .startTask 0 resolver, .startTask 1 resolver, .advanceTask 1, .advanceTask 0, .drop]

theorem reconciled_crossedLookups :
    ∃ list, ((new .metaModules).run crossedLookups).board.snapshot = ⟨1, .ready list⟩ ∧
      list.map Entry.latestVersion = ["of-r", "of-s", ""] ∧
      list.map Entry.downloadUrl = ["r.zip", "s.zip", ""] ∧
      ∃ placeholders, Reconciled .metaModules crossedLookups 1 list placeholders :=
  have h : ((new .metaModules).run crossedLookups).board.snapshot =
      ⟨1, .ready [⟨.metaModules, "a", "", "", "", "r", "", "", 1, "of-r", "r.zip", false⟩,
        ⟨.metaModules, "b", "", "", "", "s", "", "", 1, "of-s", "s.zip", false⟩,
        ⟨.metaModules, "c", "", "", "", "", "", "", 1, "", "", true⟩]⟩ := by
    decide +kernel
  ⟨_, h, rfl, rfl, reconciled_of_ready _ _ _ _ h⟩

end Session

end ModuleCatalog
