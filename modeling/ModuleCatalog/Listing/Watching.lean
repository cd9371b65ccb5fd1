import ModuleCatalog.Listing.Board

/-!
A board together with the watchers handed out for it, which are named by the order in which they
were handed out. A poll of a watcher shows the current snapshot and counts it as seen.
-/
namespace ModuleCatalog

/-- What is done to a board or asked of one of its watchers. -/
inductive Operation where
  | begin
  | putUp (generation : Nat) (entries : List Entry)
  | giveUp (generation : Nat) (message : String)
  | update (generation : Nat) (entry : Entry)
  | subscribe
  | poll (watcher : Nat)
  deriving DecidableEq, Repr

/-- What comes back from an operation. -/
inductive Response where
  | begun (generation : Nat)
  | written (accepted : Bool)
  | subscribed (watcher : Nat)
  | polled (changed : Bool) (shown : Snapshot)
  | nobody
  deriving DecidableEq, Repr

/-- Says whether a response is that of a begin or of an accepted write. -/
def Response.isChange : Response → Bool
  | .begun _ => true
  | .written accepted => accepted
  | .subscribed _ | .polled _ _ | .nobody => false

/-- A board and its watchers. -/
structure Watched where
  board : Board
  watchers : List Watcher
  deriving DecidableEq, Repr

namespace Watched

def new : Watched :=
  ⟨.empty, []⟩

def write (w : Watched) (result : Board × Bool) : Watched × Response :=
  ({ w with board := result.1 }, .written result.2)

def step (w : Watched) : Operation → Watched × Response
  | .begin => ({ w with board := w.board.begin }, .begun w.board.begin.generation)
  | .putUp generation entries => w.write (w.board.publish generation (.ready entries))
  | .giveUp generation message => w.write (w.board.publish generation (.failed message))
  | .update generation entry => w.write (w.board.update generation entry)
  | .subscribe =>
    ({ w with watchers := w.watchers ++ [w.board.watch] }, .subscribed w.watchers.length)
  | .poll k =>
    match w.watchers[k]? with
    | none => (w, .nobody)
    | some watcher =>
      ({ w with watchers := w.watchers.set k w.board.watch },
        .polled (watcher.hasChange w.board) w.board.snapshot)

/-- The board and its watchers after the operations. -/
def run (w : Watched) (operations : List Operation) : Watched :=
  operations.foldl (fun w operation => (w.step operation).1) w

def responses : Watched → List Operation → List Response
  | _, [] => []
  | w, operation :: operations =>
    (w.step operation).2 :: responses (w.step operation).1 operations

@[simp]
theorem run_nil (w : Watched) : w.run [] = w := rfl

@[simp]
theorem run_cons (w : Watched) (operation : Operation) (operations : List Operation) :
    w.run (operation :: operations) = (w.step operation).1.run operations := rfl

theorem run_append (w : Watched) (before after : List Operation) :
    w.run (before ++ after) = (w.run before).run after :=
  List.foldl_append

end Watched

end ModuleCatalog
