import ModuleCatalog.Catalog.Merge
import ModuleCatalog.Catalog.Reading
import ModuleCatalog.Listing.Board
import ModuleCatalog.Release.Lookup

/-!
Load cycles. A load asks every source, publishes the merged list with the releases still open, and
starts one task for every entry; each task looks up one release and updates its entry. The handles
of the tasks in flight are kept, so that a later load can abort them, and what slips through is
refused by its generation.
-/
namespace ModuleCatalog

/-- How far a task has come. A lookup under way has requests left to make before it ends. -/
inductive TaskStatus where
  | waiting
  | looking (left : List Request) (outcome : Release.Outcome)
  | done (release : Option Release)
  | crashed
  | aborted
  deriving DecidableEq, Repr

/-- The lookup of the release of one entry, started by the load of a generation. -/
structure Task where
  generation : Nat
  entry : Entry
  status : TaskStatus
  deriving DecidableEq, Repr

namespace Task

def isActive (t : Task) : Bool :=
  match t.status with
  | .waiting | .looking _ _ => true
  | .done _ | .crashed | .aborted => false

def abort (t : Task) : Task :=
  if t.isActive then { t with status := .aborted } else t

@[simp]
theorem generation_abort (t : Task) : t.abort.generation = t.generation := by
  unfold abort
  split <;> rfl

@[simp]
theorem entry_abort (t : Task) : t.abort.entry = t.entry := by
  unfold abort
  split <;> rfl

@[simp]
theorem isActive_abort (t : Task) : t.abort.isActive = false := by
  unfold abort
  split
  · rfl
  · simpa using ‹¬ t.isActive = true›

end Task

def abortAt (positions : List Nat) (tasks : List Task) : List Task :=
  tasks.mapIdx fun i t => if i ∈ positions then t.abort else t

@[simp]
theorem length_abortAt (positions : List Nat) (tasks : List Task) :
    (abortAt positions tasks).length = tasks.length := by
  simp [abortAt]

/-- The tasks in flight, by position, and the generation of the loader's last cycle. -/
structure InFlight where
  generation : Nat
  handles : List Nat
  deriving DecidableEq, Repr

/-- How the load itself ends. -/
inductive LoadOutcome where
  | listed (count : Nat)
  | nothing
  | superseded
  deriving DecidableEq, Repr

/-- The board of one catalog, the tasks started so far, the oldest first, and those in flight. -/
structure Loader where
  kind : Kind
  board : Board
  tasks : List Task
  inFlight : InFlight
  deriving DecidableEq, Repr

/-- What was asked of one source: the requests made, its entries, and the cycles begun meanwhile. -/
structure Fetched where
  requests : List Request
  entries : Except Failure (List Entry)
  begins : Nat

/-- Asks one source. A request that crashes counts as one that fails; that it would end the load,
with nothing published, is left out. -/
def fetch (t : Transport) (kind : Kind) (url : String) : Fetched :=
  let reply := t.text url
  let entries : Except Failure (List Entry) :=
    match reply.answer with
    | .got body => Catalog.parse kind url body
    | .failed failure => .error failure
    | .crashed => .error (.unreachable url)
  ⟨[.text url], entries, reply.begins⟩

/-- The entries of a source; a source that fails has none. -/
def Fetched.list (f : Fetched) : List Entry :=
  match f.entries with
  | .ok list => list
  | .error _ => []

def fetchAll (t : Transport) (kind : Kind) (urls : List String) : List Fetched :=
  urls.map (fetch t kind)

def mergeFetched (fetched : List Fetched) : List Entry :=
  Catalog.merge (fetched.map Fetched.list)

namespace Loader

def new (kind : Kind) : Loader :=
  ⟨kind, .empty, [], ⟨0, []⟩⟩

def cancel (l : Loader) : Loader :=
  { l with
    tasks := abortAt l.inFlight.handles l.tasks
    inFlight := { l.inFlight with handles := [] } }

/-- What is left when the loader is given up: the board, which others may hold, and its tasks. -/
def drop (l : Loader) : Loader :=
  l.cancel

/-- Begins a cycle on the board alone; the tasks go on. -/
def beginCycle (l : Loader) : Loader :=
  { l with board := l.board.begin }

/-- Begins a cycle of the loader: a new generation, and nothing in flight any more. -/
def startCycle (l : Loader) : Loader :=
  let board := l.board.begin
  { l.cancel with board := board, inFlight := ⟨board.generation, []⟩ }

def tasksFor (generation : Nat) (entries : List Entry) : List Task :=
  entries.map fun e => ⟨generation, e, .waiting⟩

@[simp]
theorem length_tasksFor (generation : Nat) (entries : List Entry) :
    (tasksFor generation entries).length = entries.length := by
  simp [tasksFor]

/-- Takes the tasks of a generation in flight, or aborts them if the loader has gone on. -/
def register (l : Loader) (generation : Nat) (positions : List Nat) : Loader :=
  if l.inFlight.generation = generation then
    { l with inFlight := ⟨generation, l.inFlight.handles ++ positions⟩ }
  else { l with tasks := abortAt positions l.tasks }

/-- Starts one task for each entry and takes them in flight. -/
def spawn (l : Loader) (generation : Nat) (entries : List Entry) : Loader :=
  let positions := List.range' l.tasks.length entries.length
  register { l with tasks := l.tasks ++ tasksFor generation entries } generation positions

@[simp]
theorem board_spawn (l : Loader) (generation : Nat) (entries : List Entry) :
    (l.spawn generation entries).board = l.board := by
  unfold spawn register
  split <;> rfl

/-- The tasks that a current list starts wait, one for each entry. -/
theorem tasks_spawn {l : Loader} {generation : Nat} (h : l.inFlight.generation = generation)
    (entries : List Entry) :
    (l.spawn generation entries).tasks = l.tasks ++ tasksFor generation entries := by
  simp [spawn, register, h]

/-- What a load leads to. -/
structure Loaded where
  loader : Loader
  generation : Nat
  outcome : LoadOutcome
  requests : List Request
  deriving DecidableEq, Repr

/-- Publishes what the sources listed, and starts the tasks if the list was accepted. -/
def publishMerged (l : Loader) (generation : Nat) (merged : List Entry) : Loader × LoadOutcome :=
  match merged with
  | [] =>
    match l.board.publish generation (.failed (Failure.nothingListed l.kind).message) with
    | (board, true) => ({ l with board := board }, .nothing)
    | (board, false) => ({ l with board := board }, .superseded)
  | _ :: _ =>
    let entries := merged.map Entry.placeholder
    match l.board.publish generation (.ready entries) with
    | (board, true) => (spawn { l with board := board } generation entries, .listed entries.length)
    | (board, false) => ({ l with board := board }, .superseded)

/-! A load publishes once. Its generation decides whether the write is accepted, and the merged list
which of the two writes it is. -/

theorem publishMerged_stale {l : Loader} {generation : Nat} (h : generation ≠ l.board.generation)
    (merged : List Entry) : l.publishMerged generation merged = (l, .superseded) := by
  cases merged <;> simp [publishMerged, Board.publish_stale h]

theorem publishMerged_nil (l : Loader) :
    l.publishMerged l.board.generation [] =
      ({ l with
          board := l.board.post
            ⟨l.board.generation, .failed (Failure.nothingListed l.kind).message⟩ },
        .nothing) := by
  simp [publishMerged]

theorem publishMerged_of_ne_nil (l : Loader) {merged : List Entry} (h : merged ≠ []) :
    l.publishMerged l.board.generation merged =
      (spawn
          { l with
            board := l.board.post ⟨l.board.generation, .ready (merged.map Entry.placeholder)⟩ }
          l.board.generation (merged.map Entry.placeholder),
        .listed merged.length) := by
  cases merged with
  | nil => contradiction
  | cons e es => simp [publishMerged]

def load (l : Loader) (t : Transport) (urls : List String) : Loaded :=
  let started := l.startCycle
  let generation := started.board.generation
  let fetched := fetchAll t l.kind urls
  let board := fetched.foldl (fun board f => board.beginTimes f.begins) started.board
  let (loader, outcome) :=
    publishMerged { started with board := board } generation (mergeFetched fetched)
  ⟨loader, generation, outcome, fetched.flatMap (·.requests)⟩

def setStatus (tasks : List Task) (i : Nat) (status : TaskStatus) : List Task :=
  tasks.modify i fun t => { t with status := status }

/-- Runs the task at a position if it is waiting: looks up the release and updates the entry. -/
def runTask (l : Loader) (resolver : Release.Resolver) (i : Nat) : Loader × List Request :=
  match l.tasks[i]? with
  | some ⟨generation, entry, .waiting⟩ =>
    let found := resolver entry.repoUrl
    let board := l.board.beginTimes found.begins
    match found.outcome with
    | .crashed =>
      ({ l with board := board, tasks := setStatus l.tasks i .crashed }, found.requests)
    | .found release =>
      ({ l with
          board := (board.update generation (entry.resolved release)).1
          tasks := setStatus l.tasks i (.done release) },
        found.requests)
  | _ => (l, [])

/-- Runs the tasks at the positions one after another. -/
def runTasks (resolver : Release.Resolver) : List Nat → Loader → Loader × List Request
  | [], l => (l, [])
  | i :: is, l =>
    let (next, requests) := l.runTask resolver i
    let (last, more) := runTasks resolver is next
    (last, requests ++ more)

/-- Runs every waiting task, in the order in which they were started. -/
def wait (l : Loader) (resolver : Release.Resolver) : Loader × List Request :=
  runTasks resolver (List.range l.tasks.length) l

end Loader

end ModuleCatalog
