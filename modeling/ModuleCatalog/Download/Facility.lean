import ModuleCatalog.Download.Slots

/-!
Facilities that use the gate while they are at work. A facility looks at the gate and calls it as
often as it likes, as do the others who know the gate in the meantime, and what comes next may
depend on what it was told. Main definitions: `Work`, what is done until there is an answer, and
`Lending.serve`, the dispatch of an entry to such a facility.
-/
namespace ModuleCatalog.Download

/-- What is done at the gate until a facility answers. An answer may also be a failure of its own.
-/
inductive Work (α : Type) where
  | answer (a : α)
  | look (next : Gate → Work α)
  | call (c : GateCall) (next : GateAnswer → Work α)

/-- What a piece of work comes to: the gate and its slots at the end, the gate as it was at the
beginning and after every step, each call with what it was told, and the answer. -/
structure Worked (α : Type) where
  lending : Lending
  gates : List Gate
  told : List (GateCall × GateAnswer)
  answer : α

/-- What a dispatch comes to: the gate and its slots afterwards, the calls of the facility with what
went on during each, and the answer of the facility or why it was not called. -/
structure Served (α : Type) where
  lending : Lending
  calls : List (Order × Worked α)
  answer : Except Failure α

namespace Lending

/-- A call during a dispatch. Nobody else has the slot of the dispatch, so that nobody can release
it. -/
def stepBeside (mine : Nat) (l : Lending) (c : GateCall) : Lending × GateAnswer :=
  if c = .release mine then (l, .released false) else l.step c

/-- Does a piece of work during a dispatch that has a slot. -/
def work {α : Type} (mine : Nat) (l : Lending) : Work α → Worked α
  | .answer a => ⟨l, [l.gate], [], a⟩
  | .look next =>
    let rest := l.work mine (next l.gate)
    { rest with gates := l.gate :: rest.gates }
  | .call c next =>
    let stepped := l.stepBeside mine c
    let rest := stepped.1.work mine (next stepped.2)
    { rest with gates := l.gate :: rest.gates, told := (c, stepped.2) :: rest.told }

/-- Hands an entry to a facility and lets it work. The entry is checked before the gate, and the
slot is given back whatever the facility answers. -/
def serve {α : Type} (facility : Order → Work α) (l : Lending) (e : Entry) : Served α :=
  match order e with
  | .error failure => ⟨l, [], .error failure⟩
  | .ok o =>
    match l.handOut e.name with
    | .error failure => ⟨l, [], .error failure⟩
    | .ok taken =>
      let worked := taken.work l.slots.length (facility o)
      ⟨(worked.lending.giveBack l.slots.length).1, [(o, worked)], .ok worked.answer⟩

end Lending

end ModuleCatalog.Download
