import ModuleCatalog.Download.Request

/-!
The gate that lets one download through at a time.
-/
namespace ModuleCatalog.Download

/-- The name of the download under way, if any. -/
structure Gate where
  active : Option String
  deriving DecidableEq, Repr

namespace Gate

def free : Gate :=
  ⟨none⟩

/-- Says whether a download of a name may be offered now. -/
def isEnabledFor (g : Gate) (name : String) : Bool :=
  match g.active with
  | none => true
  | some active => active == name

def acquire (g : Gate) (name : String) : Except Failure Gate :=
  match g.active with
  | none => .ok ⟨some name⟩
  | some active => .error (.busy active)

def release (_ : Gate) : Gate :=
  .free

@[simp]
theorem acquire_free (name : String) : free.acquire name = .ok ⟨some name⟩ := rfl

@[simp]
theorem acquire_taken (active name : String) :
    (⟨some active⟩ : Gate).acquire name = .error (.busy active) := rfl

@[simp]
theorem release_eq_free (g : Gate) : g.release = free := rfl

end Gate

/-- What a dispatch leads to: the gate afterwards, the call made to the facility with the gate as
it was then, and what the facility answered or why it was not called. -/
structure Dispatched (α : Type) where
  gate : Gate
  call : Option (Order × Gate)
  answer : Except Failure α

/-- Hands an entry to a facility, which sees the gate taken under the entry's name. The entry is
checked before the gate, and the gate is given back whatever the facility answers. -/
def dispatch {α : Type} (facility : Order → Gate → α) (g : Gate) (e : Entry) : Dispatched α :=
  match order e with
  | .error failure => ⟨g, none, .error failure⟩
  | .ok o =>
    match g.acquire e.name with
    | .error failure => ⟨g, none, .error failure⟩
    | .ok taken => ⟨taken.release, some (o, taken), .ok (facility o taken)⟩

end ModuleCatalog.Download
