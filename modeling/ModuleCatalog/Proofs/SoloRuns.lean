import ModuleCatalog.Proofs.LoadOutcomes
import ModuleCatalog.Proofs.Turns

/-!
Loads and waits that run alone are runs of turns. What holds of every run of turns therefore holds
of every sequence of calls on a loader.
-/
namespace ModuleCatalog

namespace Session

/-- The requests made in the turns. -/
def made : Session → List Turn → List Request
  | _, [] => []
  | s, turn :: turns => (s.step turn).2 ++ made (s.step turn).1 turns

theorem made_append (s : Session) (before after : List Turn) :
    s.made (before ++ after) = s.made before ++ (s.run before).made after := by
  induction before generalizing s with
  | nil => rfl
  | cons turn turns ih => simp [made, ih]

/-- Some turns lead from one session to the other and make the requests. -/
def Runs (s s' : Session) (requests : List Request) : Prop :=
  ∃ turns, s.run turns = s' ∧ s.made turns = requests

theorem Runs.refl (s : Session) : Runs s s [] :=
  ⟨[], rfl, rfl⟩

theorem Runs.trans {s s' s'' : Session} {requests more : List Request} (h : Runs s s' requests)
    (h' : Runs s' s'' more) : Runs s s'' (requests ++ more) := by
  obtain ⟨turns, rfl, rfl⟩ := h
  obtain ⟨turns', rfl, rfl⟩ := h'
  exact ⟨turns ++ turns', run_append s turns turns', made_append s turns turns'⟩

theorem Runs.turn (s : Session) (turn : Turn) : Runs s (s.step turn).1 (s.step turn).2 :=
  ⟨[turn], rfl, by simp [made]⟩

theorem made_replicate_beginCycle (s : Session) (n : Nat) :
    s.made (.replicate n .beginCycle) = [] := by
  induction n generalizing s with
  | zero => rfl
  | succ n ih => exact ih (s.step .beginCycle).1

theorem runs_beginTimes (l : Loader) (loads : List Load) (n : Nat) :
    Runs ⟨l, loads⟩ ⟨{ l with board := l.board.beginTimes n }, loads⟩ [] :=
  ⟨_, run_replicate_beginCycle l loads n, made_replicate_beginCycle _ n⟩

/-- A load opens, waits while others begin their cycles, and closes. -/
theorem runs_load (l : Loader) (loads : List Load) (t : Transport) (urls : List String) :
    let loaded := l.load t urls
    Runs ⟨l, loads⟩ ⟨loaded.loader, loads ++ [⟨loaded.generation, .closed loaded.outcome⟩]⟩
      loaded.requests := by
  let asking := ((⟨l, loads⟩ : Session).step (.openLoad urls)).1
  have hopen : Runs ⟨l, loads⟩ asking (urls.map .text) := Runs.turn ⟨l, loads⟩ (.openLoad urls)
  have hclose : Runs asking ⟨(l.load t urls).loader,
      loads ++ [⟨l.board.generation + 1, .closed (l.load t urls).outcome⟩]⟩ [] := by
    refine ⟨_, run_close l loads t urls, ?_⟩
    rw [made_append, made_replicate_beginCycle]
    rfl
  have hall := hopen.trans hclose
  rw [List.append_nil] at hall
  simp only [Loader.load_eq] at hall ⊢
  exact hall

theorem setStatus_setStatus (tasks : List Task) (i : Nat) (first second : TaskStatus) :
    Loader.setStatus (Loader.setStatus tasks i first) i second = Loader.setStatus tasks i second :=
  List.modify_modify_eq _ _ _ _

/-- The loader once the lookup of a task is over. -/
def afterLookup (l : Loader) (i generation : Nat) (entry : Entry) : Release.Outcome → Loader
  | .crashed => { l with tasks := Loader.setStatus l.tasks i .crashed }
  | .found release =>
    { l with
      board := (l.board.update generation (entry.resolved release)).1
      tasks := Loader.setStatus l.tasks i (.done release) }

/-- A lookup makes the requests that it has left, one after another, and ends. -/
theorem runs_lookup {l : Loader} {i generation : Nat} {entry : Entry} {left : List Request}
    {outcome : Release.Outcome}
    (hi : l.tasks[i]? = some ⟨generation, entry, .looking left outcome⟩) (loads : List Load) :
    Runs ⟨l, loads⟩ ⟨afterLookup l i generation entry outcome, loads⟩ left := by
  induction left generalizing l with
  | nil =>
    have hturn := Runs.turn ⟨l, loads⟩ (.advanceTask i)
    cases outcome <;> simp only [step, Loader.advanceTask, hi] at hturn <;> exact hturn
  | cons request left ih =>
    let next : Loader := { l with tasks := Loader.setStatus l.tasks i (.looking left outcome) }
    have hturn : Runs ⟨l, loads⟩ ⟨next, loads⟩ [request] := by
      have h := Runs.turn ⟨l, loads⟩ (.advanceTask i)
      simpa only [step, Loader.advanceTask, hi] using h
    have hnext : next.tasks[i]? = some ⟨generation, entry, .looking left outcome⟩ := by
      simp [next, getElem?_setStatus, hi]
    have hlast : afterLookup next i generation entry outcome =
        afterLookup l i generation entry outcome := by
      cases outcome <;> simp [afterLookup, next, setStatus_setStatus]
    exact hlast ▸ hturn.trans (ih hnext)

theorem runTask_of_waiting {l : Loader} {i generation : Nat} {entry : Entry}
    (hi : l.tasks[i]? = some ⟨generation, entry, .waiting⟩) (resolver : Release.Resolver) :
    l.runTask resolver i =
      let found := resolver entry.repoUrl
      (afterLookup { l with board := l.board.beginTimes found.begins } i generation entry
        found.outcome, found.requests) := by
  simp only [Loader.runTask, hi]
  cases (resolver entry.repoUrl).outcome <;> rfl

theorem runTask_of_started {l : Loader} {i : Nat}
    (hi : ∀ generation entry, l.tasks[i]? ≠ some ⟨generation, entry, .waiting⟩)
    (resolver : Release.Resolver) : l.runTask resolver i = (l, []) := by
  unfold Loader.runTask
  split
  · next generation entry h => exact absurd h (hi generation entry)
  · rfl

/-- A task runs from its start to its end, while others begin their cycles. -/
theorem runs_runTask (l : Loader) (loads : List Load) (resolver : Release.Resolver) (i : Nat) :
    Runs ⟨l, loads⟩ ⟨(l.runTask resolver i).1, loads⟩ (l.runTask resolver i).2 := by
  by_cases hw : ∃ generation entry, l.tasks[i]? = some ⟨generation, entry, .waiting⟩
  · obtain ⟨generation, entry, hi⟩ := hw
    let found := resolver entry.repoUrl
    let status : TaskStatus := .looking found.requests found.outcome
    let started : Loader := { l with tasks := Loader.setStatus l.tasks i status }
    let resumed : Loader := { started with board := l.board.beginTimes found.begins }
    have hstart : Runs ⟨l, loads⟩ ⟨started, loads⟩ [] := by
      have h := Runs.turn ⟨l, loads⟩ (.startTask i resolver)
      simp only [step, Loader.startTask, hi] at h
      exact h
    have hbegins : Runs ⟨started, loads⟩ ⟨resumed, loads⟩ [] :=
      runs_beginTimes started loads found.begins
    have hlooking : resumed.tasks[i]? = some ⟨generation, entry, status⟩ := by
      simp [resumed, started, getElem?_setStatus, hi]
    have hlast : afterLookup resumed i generation entry found.outcome =
        afterLookup { l with board := l.board.beginTimes found.begins } i generation entry
          found.outcome := by
      cases found.outcome <;> simp [afterLookup, resumed, started, setStatus_setStatus]
    have hall := hstart.trans (hbegins.trans (runs_lookup hlooking loads))
    rw [hlast] at hall
    rw [runTask_of_waiting hi]
    exact hall
  · rw [runTask_of_started fun generation entry hi => hw ⟨generation, entry, hi⟩]
    exact .refl _

theorem runs_runTasks (resolver : Release.Resolver) (positions : List Nat) (l : Loader)
    (loads : List Load) :
    Runs ⟨l, loads⟩ ⟨(Loader.runTasks resolver positions l).1, loads⟩
      (Loader.runTasks resolver positions l).2 := by
  induction positions generalizing l with
  | nil => exact .refl _
  | cons i positions ih => exact (runs_runTask l loads resolver i).trans (ih _)

end Session

/-- What is called on a loader, or on its board, from outside. -/
inductive Call where
  | load (t : Transport) (urls : List String)
  | wait (resolver : Release.Resolver)
  | cancel
  | drop
  | beginCycle

namespace Loader

/-- One call, and the requests made until it returns. -/
def call (l : Loader) : Call → Loader × List Request
  | .load t urls =>
    let loaded := l.load t urls
    (loaded.loader, loaded.requests)
  | .wait resolver => l.wait resolver
  | .cancel => (l.cancel, [])
  | .drop => (l.drop, [])
  | .beginCycle => (l.beginCycle, [])

/-- The calls one after another. -/
def callAll (l : Loader) : List Call → Loader × List Request
  | [] => (l, [])
  | c :: calls =>
    let (next, requests) := l.call c
    let (last, more) := next.callAll calls
    (last, requests ++ more)

end Loader

namespace Session

theorem runs_call (l : Loader) (loads : List Load) (c : Call) :
    ∃ loads', Runs ⟨l, loads⟩ ⟨(l.call c).1, loads'⟩ (l.call c).2 := by
  cases c with
  | load t urls => exact ⟨_, runs_load l loads t urls⟩
  | wait resolver => exact ⟨loads, runs_runTasks resolver _ l loads⟩
  | cancel => exact ⟨loads, .turn ⟨l, loads⟩ .cancel⟩
  | drop => exact ⟨loads, .turn ⟨l, loads⟩ .drop⟩
  | beginCycle => exact ⟨loads, .turn ⟨l, loads⟩ .beginCycle⟩

/-- Whatever is called on a loader, some turns of loads and tasks lead to the same loader and make
the same requests. -/
theorem runs_callAll (l : Loader) (loads : List Load) (calls : List Call) :
    ∃ loads', Runs ⟨l, loads⟩ ⟨(l.callAll calls).1, loads'⟩ (l.callAll calls).2 := by
  induction calls generalizing l loads with
  | nil => exact ⟨loads, .refl _⟩
  | cons c calls ih =>
    obtain ⟨between, hcall⟩ := runs_call l loads c
    obtain ⟨last, hcalls⟩ := ih (l.call c).1 between
    exact ⟨last, hcall.trans hcalls⟩

end Session

end ModuleCatalog
