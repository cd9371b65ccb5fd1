import ModuleCatalog.Listing.Loader

/-!
Loads and tasks under way at once. Each of them runs in turns, from one point where it waits to the
next one, and the turns may follow one another in any order, with cancellations and with cycles
begun on the board between them. A load that runs alone and a task that runs alone are the special
case in which the turns of one follow one another. The limit on the lookups that run at once takes
no part: the orders that it allows are among those of the turns.
-/
namespace ModuleCatalog

/-- How far a load has come: its sources are being asked, or it has ended. -/
inductive LoadStatus where
  | asking (urls : List String)
  | closed (outcome : LoadOutcome)
  deriving DecidableEq, Repr

/-- A load and the generation of the cycle that it began. -/
structure Load where
  generation : Nat
  status : LoadStatus
  deriving DecidableEq, Repr

/-- A loader and the loads called on it so far, the oldest first. -/
structure Session where
  loader : Loader
  loads : List Load
  deriving DecidableEq, Repr

/-- A turn of a load or a task, which are named by their positions, or a step from outside. -/
inductive Turn where
  | openLoad (urls : List String)
  | closeLoad (load : Nat) (t : Transport)
  | startTask (task : Nat) (resolver : Release.Resolver)
  | advanceTask (task : Nat)
  | cancel
  | drop
  | beginCycle

namespace Loader

/-- Starts the task at a position if it is waiting; its lookup is then under way. -/
def startTask (l : Loader) (resolver : Release.Resolver) (i : Nat) : Loader :=
  match l.tasks[i]? with
  | some ⟨_, entry, .waiting⟩ =>
    let found := resolver entry.repoUrl
    { l with tasks := setStatus l.tasks i (.looking found.requests found.outcome) }
  | _ => l

/-- Takes the lookup of a task to its next request or, if there is none left, to its end. -/
def advanceTask (l : Loader) (i : Nat) : Loader × List Request :=
  match l.tasks[i]? with
  | some ⟨_, _, .looking (request :: left) outcome⟩ =>
    ({ l with tasks := setStatus l.tasks i (.looking left outcome) }, [request])
  | some ⟨_, _, .looking [] .crashed⟩ =>
    ({ l with tasks := setStatus l.tasks i .crashed }, [])
  | some ⟨generation, entry, .looking [] (.found release)⟩ =>
    ({ l with
        board := (l.board.update generation (entry.resolved release)).1
        tasks := setStatus l.tasks i (.done release) },
      [])
  | _ => (l, [])

end Loader

namespace Session

def new (kind : Kind) : Session :=
  ⟨.new kind, []⟩

def board (s : Session) : Board :=
  s.loader.board

def tasks (s : Session) : List Task :=
  s.loader.tasks

/-- Opens a load: a cycle begins, and every source is asked. -/
def openLoad (s : Session) (urls : List String) : Session × List Request :=
  let started := s.loader.startCycle
  (⟨started, s.loads ++ [⟨started.board.generation, .asking urls⟩]⟩, urls.map .text)

/-- Closes a load once every source has answered: publishes what they list, and starts the tasks.
The load waits nowhere in between, so that this is one turn; a cycle that another thread begins
before the tasks are registered, which makes `Loader.register` abort them, is no turn of its own. -/
def closeLoad (s : Session) (k : Nat) (t : Transport) : Session :=
  match s.loads[k]? with
  | some ⟨generation, .asking urls⟩ =>
    let merged := mergeFetched (fetchAll t s.loader.kind urls)
    let (loader, outcome) := s.loader.publishMerged generation merged
    ⟨loader, s.loads.set k ⟨generation, .closed outcome⟩⟩
  | _ => s

def step (s : Session) : Turn → Session × List Request
  | .openLoad urls => s.openLoad urls
  | .closeLoad k t => (s.closeLoad k t, [])
  | .startTask i resolver => ({ s with loader := s.loader.startTask resolver i }, [])
  | .advanceTask i =>
    let (loader, requests) := s.loader.advanceTask i
    ({ s with loader := loader }, requests)
  | .cancel => ({ s with loader := s.loader.cancel }, [])
  | .drop => ({ s with loader := s.loader.drop }, [])
  | .beginCycle => ({ s with loader := s.loader.beginCycle }, [])

def run (s : Session) (turns : List Turn) : Session :=
  turns.foldl (fun s turn => (s.step turn).1) s

@[simp]
theorem run_nil (s : Session) : s.run [] = s := rfl

@[simp]
theorem run_cons (s : Session) (turn : Turn) (turns : List Turn) :
    s.run (turn :: turns) = (s.step turn).1.run turns := rfl

theorem run_append (s : Session) (before after : List Turn) :
    s.run (before ++ after) = (s.run before).run after :=
  List.foldl_append

end Session

end ModuleCatalog
