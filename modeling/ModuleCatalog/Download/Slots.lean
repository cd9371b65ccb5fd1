import ModuleCatalog.Download.Gate

/-!
The gate together with the slots that it hands out. A slot is kept by the caller who acquired it or
by a dispatch at work, and it frees the gate when it is given back, which happens once. Calls from
several sides, and the calls that a facility makes while it is at work, follow one another in any
order; a dispatch with nothing in between is the special case in which its two ends do.
-/
namespace ModuleCatalog.Download

/-- A slot: the name under which it was acquired, and whether it is still kept. -/
structure Slot where
  name : String
  isLive : Bool
  deriving DecidableEq, Repr

/-- What happens at a gate. All clones of a gate share its state, so that it does not matter on
which of them a call is made. A dispatch is called here; it ends when its slot is released, whatever
the facility has answered by then. -/
inductive GateCall where
  | acquire (name : String)
  | release (slot : Nat)
  | dispatch (entry : Entry)
  deriving DecidableEq, Repr

/-- What comes of a call. Slots are named by the order in which they were handed out. -/
inductive GateAnswer where
  | acquired (slot : Nat)
  | called (order : Order) (slot : Nat)
  | refused (failure : Failure)
  | released (wasLive : Bool)
  deriving DecidableEq, Repr

/-- A gate and the slots that it has handed out so far, the oldest first. -/
structure Lending where
  gate : Gate
  slots : List Slot
  deriving DecidableEq, Repr

namespace Lending

def new : Lending :=
  ⟨.free, []⟩

/-- The slot at a position is kept under a name. -/
def Keeps (l : Lending) (k : Nat) (name : String) : Prop :=
  l.slots[k]? = some ⟨name, true⟩

/-- Hands out a slot for a name, if the gate lets it through. -/
def handOut (l : Lending) (name : String) : Except Failure Lending :=
  match l.gate.acquire name with
  | .ok gate => .ok ⟨gate, l.slots ++ [⟨name, true⟩]⟩
  | .error failure => .error failure

/-- Giving back a slot frees the gate, whoever has it; without a slot nothing is given back. -/
def giveBack (l : Lending) (k : Nat) : Lending × Bool :=
  match l.slots[k]? with
  | some ⟨name, true⟩ => (⟨l.gate.release, l.slots.set k ⟨name, false⟩⟩, true)
  | _ => (l, false)

def step (l : Lending) : GateCall → Lending × GateAnswer
  | .acquire name =>
    match l.handOut name with
    | .ok taken => (taken, .acquired l.slots.length)
    | .error failure => (l, .refused failure)
  | .release k => ((l.giveBack k).1, .released (l.giveBack k).2)
  | .dispatch e =>
    match order e with
    | .error failure => (l, .refused failure)
    | .ok o =>
      match l.handOut e.name with
      | .ok taken => (taken, .called o l.slots.length)
      | .error failure => (l, .refused failure)

def run (l : Lending) (calls : List GateCall) : Lending :=
  calls.foldl (fun l call => (l.step call).1) l

@[simp]
theorem run_nil (l : Lending) : l.run [] = l := rfl

@[simp]
theorem run_cons (l : Lending) (call : GateCall) (calls : List GateCall) :
    l.run (call :: calls) = (l.step call).1.run calls := rfl

theorem run_append (l : Lending) (before after : List GateCall) :
    l.run (before ++ after) = (l.run before).run after :=
  List.foldl_append

/-! The gate alone decides whether a slot is handed out. -/

theorem handOut_free {l : Lending} (h : l.gate = .free) (name : String) :
    l.handOut name = .ok ⟨⟨some name⟩, l.slots ++ [⟨name, true⟩]⟩ := by
  rw [handOut, h]
  rfl

theorem handOut_taken {l : Lending} {holder : String} (h : l.gate = ⟨some holder⟩) (name : String) :
    l.handOut name = .error (.busy holder) := by
  rw [handOut, h]
  rfl

theorem giveBack_of_keeps {l : Lending} {k : Nat} {name : String} (h : l.Keeps k name) :
    l.giveBack k = (⟨.free, l.slots.set k ⟨name, false⟩⟩, true) := by
  rw [Keeps] at h
  simp only [giveBack, h, Gate.release_eq_free]

theorem giveBack_of_not_keeps {l : Lending} {k : Nat} (h : ∀ name, ¬l.Keeps k name) :
    l.giveBack k = (l, false) := by
  unfold giveBack
  split
  · next name hk => exact absurd hk (h name)
  · rfl

end Lending

end ModuleCatalog.Download
