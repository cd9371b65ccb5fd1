import ModuleCatalog.Sources.Basic

/-!
Editing the source list in place. An edit is refused at the point where something is found to be
wrong with it, and whatever it had written by then would stay; the operations on source lists as
values say what each edit comes to.
-/
namespace ModuleCatalog.Sources

/-- A program that works on the source list kept in memory and may be refused. -/
abbrev Editing (α : Type) : Type :=
  ExceptT SourceFault (StateM Sources) α

/-- Performs a program: its answer or why it is refused, and the source list afterwards. -/
def perform {α : Type} (p : Editing α) (s : Sources) : Except SourceFault α × Sources :=
  StateT.run (ExceptT.run p) s

section Perform

variable {α β : Type} (s : Sources)

@[simp] theorem perform_pure (a : α) : perform (pure a) s = (.ok a, s) := rfl

@[simp] theorem perform_get : perform get s = (.ok s, s) := rfl

@[simp] theorem perform_modify (f : Sources → Sources) : perform (modify f) s = (.ok (), f s) := rfl

@[simp] theorem perform_throw (fault : SourceFault) :
    perform (throw fault : Editing α) s = (.error fault, s) := rfl

@[simp] theorem perform_liftM (r : Except SourceFault α) : perform (liftM r) s = (r, s) := rfl

/-- What follows a refused program is not performed, and the source list stays as that left it. -/
theorem perform_bind (p : Editing α) (f : α → Editing β) :
    perform (p >>= f) s =
      match perform p s with
      | (.ok a, s') => perform (f a) s'
      | (.error fault, s') => (.error fault, s') := by
  change (ExceptT.bindCont f (StateT.run (ExceptT.run p) s).1).run (StateT.run (ExceptT.run p) s).2 = _
  rw [perform]
  generalize StateT.run (ExceptT.run p) s = r
  obtain ⟨a | a, s'⟩ := r <;> rfl

theorem perform_map (p : Editing α) (f : α → β) :
    perform (f <$> p) s = ((perform p s).1.map f, (perform p s).2) := by
  rw [← bind_pure_comp, perform_bind]
  obtain ⟨a | a, s'⟩ := perform p s <;> rfl

@[simp] theorem perform_ite {c : Prop} [Decidable c] (p q : Editing α) :
    perform (if c then p else q) s = if c then perform p s else perform q s := by
  split <;> rfl

end Perform

def addUrl (url : String) : Editing Unit := do
  let url ← checked url
  if url ∈ (← get).urls then throw (.duplicate url)
  modify fun s => { s with urls := s.urls ++ [url] }

def replaceUrl (index : Nat) (url : String) : Editing Unit := do
  let url ← checked url
  if url ∈ (← get).urls.eraseIdx index then throw (.duplicate url)
  if (← get).urls.length ≤ index then throw (.noSuchIndex index)
  modify fun s => { s with urls := s.urls.set index url }

def removeUrl (index : Nat) : Editing String := do
  match (← get).urls[index]? with
  | none => throw (.noSuchIndex index)
  | some url =>
    if (← get).urls.length = 1 then throw .lastSource
    modify fun s => { s with urls := s.urls.eraseIdx index }
    return url

def resetToDefault : Editing Unit :=
  modify fun s => { s with urls := default.urls }

def setIncludeNonFree (enabled : Bool) : Editing Unit :=
  modify fun s => { s with includeNonFree := enabled }

/-! An edit in place comes to what the operation on values says, and a refused one has written
nothing. -/

theorem perform_addUrl (s : Sources) (url : String) :
    perform (addUrl url) s =
      match s.add url with
      | .ok s' => (.ok (), s')
      | .error fault => (.error fault, s) := by
  rw [addUrl, add, perform_bind, perform_liftM]
  cases checked url with
  | error fault => rfl
  | ok url' => by_cases hm : url' ∈ s.urls <;> simp [perform_bind, hm]

theorem perform_replaceUrl (s : Sources) (index : Nat) (url : String) :
    perform (replaceUrl index url) s =
      match s.replace index url with
      | .ok s' => (.ok (), s')
      | .error fault => (.error fault, s) := by
  rw [replaceUrl, replace, perform_bind, perform_liftM]
  cases checked url with
  | error fault => rfl
  | ok url' =>
    by_cases hm : url' ∈ s.urls.eraseIdx index
    · simp [perform_bind, hm]
    · by_cases hi : index < s.urls.length <;> simp [perform_bind, hm, hi]

theorem perform_removeUrl (s : Sources) (index : Nat) :
    perform (removeUrl index) s =
      match s.remove index with
      | .ok (url, s') => (.ok url, s')
      | .error fault => (.error fault, s) := by
  rw [removeUrl, remove, perform_bind, perform_get]
  cases hi : s.urls[index]? with
  | none => simp [hi]
  | some url => by_cases hl : s.urls.length = 1 <;> simp [perform_bind, perform_map, hi, hl, Except.map]

/-- An edit of the source list. -/
inductive Edit where
  | add (url : String)
  | replace (index : Nat) (url : String)
  | remove (index : Nat)
  | reset
  | setNonFree (enabled : Bool)
  deriving DecidableEq, Repr

namespace Edit

/-- The program of an edit; the answer is the address that was removed. -/
def program : Edit → Editing (Option String)
  | .add url => do addUrl url; return none
  | .replace index url => do replaceUrl index url; return none
  | .remove index => do return some (← removeUrl index)
  | .reset => do resetToDefault; return none
  | .setNonFree enabled => do setIncludeNonFree enabled; return none

def run (e : Edit) (s : Sources) : Except SourceFault (Option String) × Sources :=
  perform e.program s

section Run

variable (s : Sources)

theorem run_add (url : String) :
    (add url).run s =
      match s.add url with
      | .ok s' => (.ok none, s')
      | .error fault => (.error fault, s) := by
  rw [run, program, perform_bind, perform_addUrl]
  cases s.add url <;> rfl

theorem run_replace (index : Nat) (url : String) :
    (replace index url).run s =
      match s.replace index url with
      | .ok s' => (.ok none, s')
      | .error fault => (.error fault, s) := by
  rw [run, program, perform_bind, perform_replaceUrl]
  cases s.replace index url <;> rfl

theorem run_remove (index : Nat) :
    (remove index).run s =
      match s.remove index with
      | .ok (url, s') => (.ok (some url), s')
      | .error fault => (.error fault, s) := by
  rw [run, program, perform_bind, perform_removeUrl]
  cases s.remove index <;> rfl

end Run

/-- Performs edits one after another, whether they are refused or not. -/
def runAll (edits : List Edit) (s : Sources) : Sources :=
  edits.foldl (fun s e => (e.run s).2) s

theorem runAll_append (edits more : List Edit) (s : Sources) :
    runAll (edits ++ more) s = runAll more (runAll edits s) :=
  List.foldl_append

theorem runAll_concat (edits : List Edit) (e : Edit) (s : Sources) :
    runAll (edits ++ [e]) s = (e.run (runAll edits s)).2 := by
  rw [runAll_append]
  rfl

end Edit

end ModuleCatalog.Sources
