import ModuleCatalog.Proofs.Turns

/-!
What a task may still do once its cycle is over. A task that is active is in flight, so that
whatever aborts the tasks in flight leaves nothing of them to do; a task that was not aborted is
held back by its generation; and what a task has left to do only ever gets less.
-/
namespace ModuleCatalog

namespace Turn

/-- The task whose turn it is. -/
def task? : Turn → Option Nat
  | .startTask i _ | .advanceTask i => some i
  | .openLoad _ | .closeLoad _ _ | .cancel | .drop | .beginCycle => none

/-- Says whether a turn aborts the tasks in flight. -/
def stops : Turn → Bool
  | .openLoad _ | .cancel | .drop => true
  | .closeLoad _ _ | .startTask _ _ | .advanceTask _ | .beginCycle => false

end Turn

namespace Task

/-- Says whether the lookup of a task is still to be begun. -/
def isWaiting (t : Task) : Bool :=
  match t.status with
  | .waiting => true
  | _ => false

/-- Says whether the lookup of a task is under way. -/
def isLooking (t : Task) : Bool :=
  match t.status with
  | .looking _ _ => true
  | _ => false

/-- The requests that are left to a task whose lookup makes `n` of them at most. -/
def asksLeft (n : Nat) (t : Task) : Nat :=
  match t.status with
  | .waiting => n
  | .looking left _ => left.length
  | .done _ | .crashed | .aborted => 0

end Task

namespace Session

/-- A turn gives no task anything to do that had nothing left to do. -/
theorem TaskStep.isActive {turn : Turn} {i : Nat} {t t' : Task} (h : TaskStep turn i t t')
    (ha : t'.isActive = true) : t.isActive = true := by
  cases h with
  | same => exact ha
  | aborted => simp at ha
  | started own waiting => simp [Task.isActive, waiting]
  | asked own looking => simp [Task.isActive, looking]
  | crashed own looking => simp [Task.isActive, looking]
  | answered own looking => simp [Task.isActive, looking]

theorem TaskStep.asksLeft_le {turn : Turn} {i n : Nat} {t t' : Task} (h : TaskStep turn i t t')
    (hn : ∀ resolver, turn = .startTask i resolver → ∀ repo, (resolver repo).requests.length ≤ n) :
    t'.asksLeft n ≤ t.asksLeft n := by
  cases h with
  | same => exact Nat.le_refl _
  | aborted =>
    unfold Task.abort
    split
    · exact Nat.zero_le _
    · exact Nat.le_refl _
  | @started resolver own waiting => simpa [Task.asksLeft, waiting] using hn resolver own _
  | asked own looking => simp [Task.asksLeft, looking]
  | crashed own looking => exact Nat.zero_le _
  | answered own looking => exact Nat.zero_le _

/-- Whatever is active is in flight. -/
def Covered (s : Session) : Prop :=
  ∀ i t, s.tasks[i]? = some t → t.isActive = true → i ∈ s.loader.inFlight.handles

/-- A turn that starts no task and keeps the handles keeps every active task in flight. -/
theorem Covered.of_handles {s s' : Session} {turn : Turn} {requests : List Request}
    (h : Covered s) (he : Effect s turn s' requests) (hlen : s'.tasks.length = s.tasks.length)
    (hh : s'.loader.inFlight.handles = s.loader.inFlight.handles) : Covered s' := by
  intro i t hi ha
  have hlt : i < s.tasks.length := hlen ▸ (List.getElem?_eq_some_iff.mp hi).1
  obtain ⟨t', ht', hstep⟩ := exists_taskStep he (List.getElem?_eq_getElem hlt)
  obtain rfl : t' = t := Option.some.inj (ht'.symm.trans hi)
  rw [hh]
  exact h i _ (List.getElem?_eq_getElem hlt) (hstep.isActive ha)

/-- Once the tasks in flight are aborted, none is active. -/
theorem Covered.abortAt {s : Session} (h : Covered s) {i : Nat} {t : Task}
    (hi : (abortAt s.loader.inFlight.handles s.tasks)[i]? = some t) : t.isActive = false := by
  rw [getElem?_abortAt] at hi
  obtain ⟨u, hu, rfl⟩ := Option.map_eq_some_iff.mp hi
  by_cases hm : i ∈ s.loader.inFlight.handles
  · simp [hm]
  · have hu' : u.isActive = false := Bool.eq_false_iff.mpr fun ha => hm (h i u hu ha)
    simpa [hm] using hu'

/-- New tasks are taken in flight or aborted; the tasks before them stay as they are. -/
theorem Covered.spawn {s : Session} (h : Covered s) {l : Loader} (htasks : l.tasks = s.tasks)
    (hflight : l.inFlight = s.loader.inFlight) (generation : Nat) (entries : List Entry) {i : Nat}
    {t : Task} (hi : (l.spawn generation entries).tasks[i]? = some t) (ha : t.isActive = true) :
    i ∈ (l.spawn generation entries).inFlight.handles := by
  have hcases {u : Task} (hu : (l.tasks ++ Loader.tasksFor generation entries)[i]? = some u) :
      l.tasks[i]? = some u ∨ i ∈ List.range' l.tasks.length entries.length := by
    obtain ⟨hlt, -⟩ := List.getElem?_eq_some_iff.mp hu
    rw [List.length_append, Loader.length_tasksFor] at hlt
    by_cases hold : i < l.tasks.length
    · exact .inl (by rwa [List.getElem?_append_left hold] at hu)
    · exact .inr (List.mem_range'_1.mpr ⟨by omega, by omega⟩)
  have hbefore {u : Task} (hu : l.tasks[i]? = some u) (hact : u.isActive = true) :
      i ∈ l.inFlight.handles := by
    rw [hflight]
    exact h i u (htasks ▸ hu) hact
  unfold Loader.spawn Loader.register at hi ⊢
  split at hi
  · rw [if_pos ‹_›]
    change i ∈ l.inFlight.handles ++ List.range' l.tasks.length entries.length
    rcases hcases hi with hu | hnew
    · exact List.mem_append_left _ (hbefore hu ha)
    · exact List.mem_append_right _ hnew
  · rw [if_neg ‹_›]
    change i ∈ l.inFlight.handles
    rw [getElem?_abortAt] at hi
    obtain ⟨u, hu, rfl⟩ := Option.map_eq_some_iff.mp hi
    by_cases hm : i ∈ List.range' l.tasks.length entries.length
    · simp [hm] at ha
    · rw [if_neg hm] at ha
      exact hbefore ((hcases hu).resolve_right hm) ha

theorem Covered.effect {s s' : Session} {turn : Turn} {requests : List Request} (h : Covered s)
    (he : Effect s turn s' requests) : Covered s' := by
  cases he with
  | opened urls =>
    intro i t hi ha
    exact absurd ha (Bool.eq_false_iff.mp (h.abortAt hi))
  | @listed k t urls entries asking nonempty placeholders =>
    intro i u hi ha
    exact h.spawn (l := s.afterPost _) rfl rfl _ _ hi ha
  | nothing asking empty => exact h
  | superseded asking stale => exact h
  | started waiting => exact h.of_handles (.started waiting) (length_setStatus _ _ _) rfl
  | asked looking => exact h.of_handles (.asked looking) (length_setStatus _ _ _) rfl
  | crashed looking => exact h.of_handles (.crashed looking) (length_setStatus _ _ _) rfl
  | answered looking => exact h.of_handles (.answered looking) (length_setStatus _ _ _) rfl
  | stopped stop =>
    intro i t hi ha
    exact absurd ha (Bool.eq_false_iff.mp (h.abortAt hi))
  | begun => exact h
  | notAsking => exact h
  | notWaiting => exact h
  | notLooking => exact h

theorem covered_run (kind : Kind) (turns : List Turn) : Covered ((new kind).run turns) := by
  refine run_invariant (fun _ _ _ _ h he => h.effect he) ?_ turns
  intro i t hi
  cases hi

/-- The task at a position was started and has nothing left to do. -/
def Quiet (s : Session) (i : Nat) : Prop :=
  ∃ t, s.tasks[i]? = some t ∧ t.isActive = false

theorem Quiet.effect {s s' : Session} {turn : Turn} {requests : List Request} {i : Nat}
    (h : Quiet s i) (he : Effect s turn s' requests) : Quiet s' i := by
  obtain ⟨t, hi, hq⟩ := h
  obtain ⟨t', hi', hstep⟩ := exists_taskStep he hi
  refine ⟨t', hi', Bool.eq_false_iff.mpr fun ha => ?_⟩
  rw [hstep.isActive ha] at hq
  cases hq

theorem Quiet.run {s : Session} {i : Nat} (h : Quiet s i) (turns : List Turn) :
    Quiet (s.run turns) i :=
  run_invariant (P := fun s => Quiet s i) (fun _ _ _ _ h he => h.effect he) h turns

/-- What the turn of a task does if the task goes on in it. -/
inductive OwnTurn (s : Session) (i : Nat) (t : Task) : Session → List Request → Prop where
  | started {resolver : Release.Resolver} (waiting : t.status = .waiting) :
      OwnTurn s i t
        (s.withStatus i
          (.looking (resolver t.entry.repoUrl).requests (resolver t.entry.repoUrl).outcome)) []
  | asked {request : Request} {left : List Request} {outcome : Release.Outcome}
      (looking : t.status = .looking (request :: left) outcome) :
      OwnTurn s i t (s.withStatus i (.looking left outcome)) [request]
  | crashed (looking : t.status = .looking [] .crashed) :
      OwnTurn s i t (s.withStatus i .crashed) []
  | answered {release : Option Release} (looking : t.status = .looking [] (.found release)) :
      OwnTurn s i t
        ⟨{ s.loader with
            board := (s.board.update t.generation (t.entry.resolved release)).1
            tasks := Loader.setStatus s.tasks i (.done release) }, s.loads⟩ []

/-- In its own turn a task goes on, or nothing happens. -/
theorem own_of_effect {s s' : Session} {turn : Turn} {requests : List Request} {i : Nat}
    (he : Effect s turn s' requests) (own : turn.task? = some i) :
    s' = s ∧ requests = [] ∨ ∃ t, s.tasks[i]? = some t ∧ OwnTurn s i t s' requests := by
  cases he with
  | opened urls => cases own
  | listed => cases own
  | nothing => cases own
  | superseded => cases own
  | started waiting =>
    cases own
    exact .inr ⟨_, waiting, .started rfl⟩
  | asked looking =>
    cases own
    exact .inr ⟨_, looking, .asked rfl⟩
  | crashed looking =>
    cases own
    exact .inr ⟨_, looking, .crashed rfl⟩
  | answered looking =>
    cases own
    exact .inr ⟨_, looking, .answered rfl⟩
  | stopped stop => rcases stop with rfl | rfl <;> cases own
  | begun => cases own
  | notAsking => exact .inl ⟨rfl, rfl⟩
  | notWaiting => exact .inl ⟨rfl, rfl⟩
  | notLooking => exact .inl ⟨rfl, rfl⟩

theorem OwnTurn.isActive {s s' : Session} {i : Nat} {t : Task} {requests : List Request}
    (h : OwnTurn s i t s' requests) : t.isActive = true := by
  cases h with
  | started waiting => simp [Task.isActive, waiting]
  | asked looking => simp [Task.isActive, looking]
  | crashed looking => simp [Task.isActive, looking]
  | answered looking => simp [Task.isActive, looking]

/-- A turn of a task that has nothing left to do makes no request and changes nothing. -/
theorem Quiet.step {s : Session} {i : Nat} (h : Quiet s i) {turn : Turn}
    (own : turn.task? = some i) : s.step turn = (s, []) := by
  obtain ⟨t, hi, hq⟩ := h
  rcases own_of_effect (effect_step s turn) own with ⟨hs, hr⟩ | ⟨u, hu, hturn⟩
  · exact Prod.ext hs hr
  · obtain rfl : t = u := Option.some.inj (hi.symm.trans hu)
    rw [hturn.isActive] at hq
    cases hq

/-- After a turn that aborts the tasks in flight, no task started before it has anything to do. -/
theorem Covered.quiet_of_stops {s : Session} (h : Covered s) {turn : Turn}
    (hstops : turn.stops = true) {i : Nat} (hi : i < s.tasks.length) :
    Quiet (s.step turn).1 i := by
  have haborted : ∃ t, (ModuleCatalog.abortAt s.loader.inFlight.handles s.tasks)[i]? = some t := by
    rw [← Option.isSome_iff_exists]
    simpa using hi
  obtain ⟨t, ht⟩ := haborted
  cases turn with
  | openLoad urls => exact ⟨t, ht, h.abortAt ht⟩
  | cancel => exact ⟨t, ht, h.abortAt ht⟩
  | drop => exact ⟨t, ht, h.abortAt ht⟩
  | closeLoad k t => cases hstops
  | startTask i resolver => cases hstops
  | advanceTask i => cases hstops
  | beginCycle => cases hstops

/-- A task whose cycle is over leaves the board alone, whether it was aborted or not. -/
theorem board_of_stale {s s' : Session} {turn : Turn} {requests : List Request} {i : Nat} {t : Task}
    (he : Effect s turn s' requests) (own : turn.task? = some i) (hi : s.tasks[i]? = some t)
    (hstale : t.generation ≠ s.board.generation) : s'.board = s.board := by
  rcases own_of_effect he own with ⟨rfl, -⟩ | ⟨u, hu, hturn⟩
  · rfl
  · obtain rfl : t = u := Option.some.inj (hi.symm.trans hu)
    cases hturn with
    | started waiting => rfl
    | asked looking => rfl
    | crashed looking => rfl
    | answered looking => exact congrArg Prod.fst (Board.update_stale hstale _)

/-! What a task does in the course of a run is paid from what its status leaves it to do. -/

/-- The sum of the costs of the turns. -/
def total (cost : Session → Turn → Nat) : Session → List Turn → Nat
  | _, [] => 0
  | s, turn :: turns => cost s turn + total cost (s.step turn).1 turns

theorem total_add_le {cost : Session → Turn → Nat} {potential : Session → Nat} {turns : List Turn}
    (s : Session)
    (h : ∀ s, ∀ turn ∈ turns, cost s turn + potential (s.step turn).1 ≤ potential s) :
    total cost s turns + potential (s.run turns) ≤ potential s := by
  induction turns generalizing s with
  | nil => simp [total]
  | cons turn turns ih =>
    have hhead := h s turn List.mem_cons_self
    have htail := ih (s.step turn).1 fun s turn hm => h s turn (List.mem_cons_of_mem _ hm)
    rw [total, run_cons]
    omega

/-- Counts a turn in which the task goes from waiting to its lookup. -/
def starts (i : Nat) (s : Session) (turn : Turn) : Nat :=
  if s.tasks[i]?.any Task.isWaiting && (s.step turn).1.tasks[i]?.any Task.isLooking then 1 else 0

/-- Counts a turn of the task in which the board changes. -/
def writes (i : Nat) (s : Session) (turn : Turn) : Nat :=
  if turn.task? = some i ∧ (s.step turn).1.board ≠ s.board then 1 else 0

/-- The number of requests that the task makes in a turn. -/
def asks (i : Nat) (s : Session) (turn : Turn) : Nat :=
  if turn.task? = some i then (s.step turn).2.length else 0

/-- The starts that are left to a task, whether it exists yet or not. -/
def startsLeft (i : Nat) (s : Session) : Nat :=
  if s.tasks[i]?.all Task.isWaiting then 1 else 0

/-- The changes of the board that are left to a task. -/
def writesLeft (i : Nat) (s : Session) : Nat :=
  if s.tasks[i]?.all Task.isActive then 1 else 0

/-- The requests that are left to a task, if no lookup makes more than `n`. -/
def asksLeft (n i : Nat) (s : Session) : Nat :=
  match s.tasks[i]? with
  | none => n
  | some t => t.asksLeft n

theorem starts_add_le (i : Nat) (s : Session) (turn : Turn) :
    starts i s turn + startsLeft i (s.step turn).1 ≤ startsLeft i s := by
  have he := effect_step s turn
  cases hs : s.tasks[i]? with
  | none =>
    have hzero : starts i s turn = 0 := by simp [starts, hs]
    have hone : startsLeft i s = 1 := by simp [startsLeft, hs]
    rw [hzero, hone, Nat.zero_add, startsLeft]
    split <;> omega
  | some t =>
    obtain ⟨t', ht', hstep⟩ := exists_taskStep he hs
    simp only [starts, startsLeft, hs, ht', Option.any_some, Option.all_some]
    cases hstep with
    | same => cases hst : t.status <;> simp [Task.isWaiting, Task.isLooking, hst]
    | aborted =>
      cases hst : t.status <;> simp [Task.abort, Task.isActive, Task.isWaiting, Task.isLooking, hst]
    | started own waiting => simp [Task.isWaiting, Task.isLooking, waiting]
    | asked own looking => simp [Task.isWaiting, looking]
    | crashed own looking => simp [Task.isWaiting, looking]
    | answered own looking => simp [Task.isWaiting, looking]

/-- When the board changes in the turn of a task, the task was active and is so no longer. -/
theorem quiet_of_write {s s' : Session} {turn : Turn} {requests : List Request} {i : Nat}
    (he : Effect s turn s' requests) (own : turn.task? = some i) (hb : s'.board ≠ s.board) :
    (∃ t, s.tasks[i]? = some t ∧ t.isActive = true) ∧ Quiet s' i := by
  rcases own_of_effect he own with ⟨rfl, -⟩ | ⟨t, hi, hturn⟩
  · exact absurd rfl hb
  · refine ⟨⟨t, hi, hturn.isActive⟩, ?_⟩
    cases hturn with
    | started waiting => exact absurd rfl hb
    | asked looking => exact absurd rfl hb
    | crashed looking => exact absurd rfl hb
    | @answered release looking =>
      refine ⟨{ t with status := .done release }, ?_, rfl⟩
      change (Loader.setStatus s.tasks i (.done release))[i]? = _
      simp [getElem?_setStatus, hi]

theorem writes_add_le (i : Nat) (s : Session) (turn : Turn) :
    writes i s turn + writesLeft i (s.step turn).1 ≤ writesLeft i s := by
  have he := effect_step s turn
  by_cases hw : turn.task? = some i ∧ (s.step turn).1.board ≠ s.board
  · obtain ⟨⟨t, ht, ha⟩, ⟨t', ht', hq⟩⟩ := quiet_of_write he hw.1 hw.2
    simp [writes, writesLeft, hw, ht, ht', ha, hq]
  · rw [writes, if_neg hw, Nat.zero_add, writesLeft, writesLeft]
    cases hs : s.tasks[i]? with
    | none =>
      rw [Option.all_none, if_pos rfl]
      split <;> omega
    | some t =>
      obtain ⟨t', ht', hstep⟩ := exists_taskStep he hs
      simp only [ht', Option.all_some]
      by_cases ha : t'.isActive = true
      · simp [ha, hstep.isActive ha]
      · rw [if_neg ha]
        exact Nat.zero_le _

/-- A request is paid from the lookup that makes it. -/
theorem OwnTurn.asks_add_le {s s' : Session} {i : Nat} {t : Task} {requests : List Request} (n : Nat)
    (h : OwnTurn s i t s' requests) (hi : s.tasks[i]? = some t) :
    requests = [] ∨ requests.length + asksLeft n i s' ≤ asksLeft n i s := by
  cases h with
  | started waiting => exact .inl rfl
  | @asked request left outcome looking =>
    have hafter : (s.withStatus i (.looking left outcome)).tasks[i]? =
        some { t with status := .looking left outcome } := by
      change (Loader.setStatus s.tasks i (.looking left outcome))[i]? = _
      simp [getElem?_setStatus, hi]
    right
    rw [asksLeft, asksLeft, hafter, hi]
    simp [Task.asksLeft, looking, Nat.add_comm]
  | crashed looking => exact .inl rfl
  | answered looking => exact .inl rfl

theorem asks_add_le {n i : Nat} {turn : Turn} (s : Session)
    (hn : ∀ resolver, turn = .startTask i resolver → ∀ repo, (resolver repo).requests.length ≤ n) :
    asks i s turn + asksLeft n i (s.step turn).1 ≤ asksLeft n i s := by
  have he := effect_step s turn
  have hsilent (hr : asks i s turn = 0) :
      asks i s turn + asksLeft n i (s.step turn).1 ≤ asksLeft n i s := by
    rw [hr, Nat.zero_add, asksLeft, asksLeft]
    cases hs : s.tasks[i]? with
    | none =>
      cases hs' : (s.step turn).1.tasks[i]? with
      | none => exact Nat.le_refl n
      | some t =>
        rcases status_of_new he hs hs' with hw | hw <;> simp [Task.asksLeft, hw]
    | some t =>
      obtain ⟨t', ht', hstep⟩ := exists_taskStep he hs
      rw [ht']
      exact hstep.asksLeft_le hn
  by_cases own : turn.task? = some i
  · have hnone (hr : (s.step turn).2 = []) : asks i s turn = 0 := by
      rw [asks, if_pos own, hr, List.length_nil]
    rcases own_of_effect he own with ⟨-, hr⟩ | ⟨t, hi, hturn⟩
    · exact hsilent (hnone hr)
    · rcases hturn.asks_add_le n hi with hr | hle
      · exact hsilent (hnone hr)
      · rwa [asks, if_pos own]
  · exact hsilent (by rw [asks, if_neg own])

/-- Scraping a release takes one request for its redirect and one for its page of assets. -/
theorem length_requests_lookup (t : Transport) (origin repo : String) :
    (Release.lookup t origin repo).requests.length ≤ 2 := by
  simp only [Release.lookup]
  split
  · exact Nat.zero_le 2
  · split
    · exact Nat.le_succ 1
    · exact Nat.le_succ 1
    · split
      · exact Nat.le_succ 1
      · exact Nat.le_refl 2

/-- No work is done for a cycle that is over, and none is done twice. A task that was started before
a load, a cancellation or a drop takes no further step; the turns of a task of another generation
than the board's leave the board as it is; and every task starts once, changes the board once and,
if it scrapes, makes two requests, at most. -/
theorem no_stale_work (kind : Kind) (turns : List Turn) (i : Nat) :
    let s := (new kind).run turns
    (∀ before stop after turn, turns = before ++ stop :: after → stop.stops = true →
      i < ((new kind).run before).tasks.length → turn.task? = some i → s.step turn = (s, [])) ∧
    (∀ t turn, s.tasks[i]? = some t → t.generation ≠ s.board.generation → turn.task? = some i →
      (s.step turn).1.board = s.board) ∧
    total (starts i) (new kind) turns ≤ 1 ∧
    total (writes i) (new kind) turns ≤ 1 ∧
    ((∀ resolver, .startTask i resolver ∈ turns →
        ∃ t origin, resolver = Release.lookup t origin) →
      total (asks i) (new kind) turns ≤ 2) := by
  intro s
  refine ⟨?_, ?_, ?_, ?_, ?_⟩
  · rintro before stop after turn rfl hstops hi own
    have hquiet := ((covered_run kind before).quiet_of_stops hstops hi).run after
    have hs : s = (((new kind).run before).step stop).1.run after := run_append _ _ _
    rw [hs]
    exact hquiet.step own
  · intro t turn hi hstale own
    exact board_of_stale (effect_step s turn) own hi hstale
  · have h : total (starts i) (new kind) turns + startsLeft i s ≤ 1 :=
      total_add_le (new kind) fun s turn _ => starts_add_le i s turn
    omega
  · have h : total (writes i) (new kind) turns + writesLeft i s ≤ 1 :=
      total_add_le (new kind) fun s turn _ => writes_add_le i s turn
    omega
  · intro hscraping
    have hstep (s : Session) (turn : Turn) (hm : turn ∈ turns) :
        asks i s turn + asksLeft 2 i (s.step turn).1 ≤ asksLeft 2 i s := by
      refine asks_add_le s fun resolver hturn repo => ?_
      obtain ⟨t, origin, rfl⟩ := hscraping resolver (hturn ▸ hm)
      exact length_requests_lookup t origin repo
    have h : total (asks i) (new kind) turns + asksLeft 2 i s ≤ 2 := total_add_le (new kind) hstep
    omega

/-- The only module is being looked up when a cycle is begun on the board. -/
def overtaken : List Turn :=
  let network : Transport :=
    ⟨fun _ => ⟨0, .got "[\x7b\"id\":\"a\",\"repoUrl\":\"r\"\x7d]"⟩,
      fun _ => ⟨0, .got (some "r/releases/tag/1")⟩⟩
  [.openLoad ["u"], .closeLoad 0 network, .startTask 0 (Release.lookup network "r"), .beginCycle]

theorem no_stale_work_overtaken :
    let stale := (new .metaModules).run overtaken
    let stopped := (new .metaModules).run (overtaken ++ [.cancel])
    (stale.tasks[0]?.map Task.generation = some 1 ∧ stale.board.generation = 2 ∧
      (stale.step (.advanceTask 0)).1.board = stale.board) ∧
    (0 < stale.tasks.length ∧ stopped.step (.advanceTask 0) = (stopped, [])) ∧
    total (asks 0) (new .metaModules) overtaken ≤ 2 := by
  intro stale stopped
  have htask : stale.tasks[0]?.map Task.generation = some 1 := by decide +kernel
  have hboard : stale.board.generation = 2 := by decide +kernel
  have hlength : 0 < stale.tasks.length := by decide +kernel
  obtain ⟨t, ht, hgeneration⟩ := Option.map_eq_some_iff.mp htask
  obtain ⟨-, hstale, -, -, hscraping⟩ := no_stale_work .metaModules overtaken 0
  obtain ⟨hstopped, -⟩ := no_stale_work .metaModules (overtaken ++ [.cancel]) 0
  refine ⟨⟨htask, hboard, hstale t _ ht (by rw [hgeneration, hboard]; decide) rfl⟩,
    ⟨hlength, hstopped overtaken .cancel [] _ rfl rfl hlength rfl⟩, hscraping ?_⟩
  intro resolver hm
  simp only [overtaken, List.mem_cons, List.not_mem_nil, or_false, reduceCtorEq, false_or] at hm
  exact ⟨_, _, (Turn.startTask.inj hm).2⟩

end Session

end ModuleCatalog
