import ModuleCatalog.Download.Facility
import ModuleCatalog.Proofs.GateSlots

/-!
What a facility can do to the gate while it works. Its dispatch keeps the slot, so that nothing that
the facility or anybody else calls in the meantime is let through or changes anything, and the gate
is given back as it was found.
-/
namespace ModuleCatalog.Download

/-- What a call is told while the gate is taken under a name and the slot is out of reach. -/
def GateCall.toldUnder (holder : String) : GateCall → GateAnswer
  | .acquire _ => .refused (.busy holder)
  | .release _ => .released false
  | .dispatch e =>
    match order e with
    | .ok _ => .refused (.busy holder)
    | .error failure => .refused failure

/-- What a piece of work answers if the gate is taken under a name all along. -/
def Work.answerUnder {α : Type} (holder : String) : Work α → α
  | .answer a => a
  | .look next => (next ⟨some holder⟩).answerUnder holder
  | .call c next => (next (c.toldUnder holder)).answerUnder holder

namespace Lending

variable {α : Type} {l : Lending} {mine : Nat} {holder : String}

theorem stepBeside_of_keeps (h : Exclusive l) (hk : l.Keeps mine holder) (c : GateCall) :
    l.stepBeside mine c = (l, c.toldUnder holder) := by
  have htaken : l.gate = ⟨some holder⟩ := h.gate_of_keeps hk
  rw [stepBeside]
  split
  · next hmine => rw [hmine, GateCall.toldUnder]
  · next hother =>
    cases c with
    | acquire name => exact step_acquire_taken htaken name
    | release k =>
      apply step_release_of_not_keeps
      intro name hother'
      obtain rfl : k = mine := h.unique k mine name holder hother' hk
      exact hother rfl
    | dispatch e =>
      rw [GateCall.toldUnder]
      cases ho : order e with
      | error failure => exact step_dispatch_error ho
      | ok o => exact step_dispatch_taken htaken ho

/-- What went on during a piece of work while the gate was taken under a name: nothing that shows.
-/
structure Undisturbed (l : Lending) (holder : String) (w : Work α) (worked : Worked α) : Prop where
  lending : worked.lending = l
  gates : ∀ g ∈ worked.gates, g = ⟨some holder⟩
  told : ∀ c answer, (c, answer) ∈ worked.told → answer = c.toldUnder holder
  answer : worked.answer = w.answerUnder holder

theorem undisturbed_work (h : Exclusive l) (hk : l.Keeps mine holder) (w : Work α) :
    Undisturbed l holder w (l.work mine w) := by
  have htaken : l.gate = ⟨some holder⟩ := h.gate_of_keeps hk
  induction w with
  | answer a =>
    exact ⟨rfl, fun g hg => (List.mem_singleton.mp hg).trans htaken, nofun, rfl⟩
  | look next ih =>
    rw [work, htaken]
    have hrest := ih ⟨some holder⟩
    refine ⟨hrest.lending, List.forall_mem_cons.mpr ⟨rfl, hrest.gates⟩, hrest.told, hrest.answer⟩
  | call c next ih =>
    rw [work, stepBeside_of_keeps h hk c, htaken]
    have hrest := ih (c.toldUnder holder)
    refine ⟨hrest.lending, List.forall_mem_cons.mpr ⟨rfl, hrest.gates⟩, ?_, hrest.answer⟩
    intro c' answer hmem
    rcases List.mem_cons.mp hmem with heq | hmem
    · obtain ⟨rfl, rfl⟩ := Prod.mk.inj heq
      rfl
    · exact hrest.told c' answer hmem

end Lending

theorem order_eq (e : Entry) :
    order e = if e.isDownloadable = true then .ok ⟨e.name, e.downloadUrl, e.fileName⟩
      else .error (.notDownloadable e.name) := rfl

namespace Lending

variable {α : Type} {l : Lending} {e : Entry} {o : Order}

/-! A dispatch has three endings. -/

theorem serve_error {failure : Failure} (ho : order e = .error failure)
    (facility : Order → Work α) (l : Lending) :
    l.serve facility e = ⟨l, [], .error failure⟩ := by
  simp only [serve, ho]

theorem serve_taken {holder : String} (ho : order e = .ok o) (h : l.gate = ⟨some holder⟩)
    (facility : Order → Work α) : l.serve facility e = ⟨l, [], .error (.busy holder)⟩ := by
  simp only [serve, ho, handOut_taken h]

/-- Where the gate is free, the facility works undisturbed and the slot of the dispatch is released.
-/
theorem serve_free (hl : Exclusive l) (ho : order e = .ok o) (h : l.gate = .free)
    (facility : Order → Work α) :
    ∃ worked, Undisturbed (l.lent e.name) e.name (facility o) worked ∧
      l.serve facility e =
        ⟨(l.lent e.name).returned l.slots.length e.name, [(o, worked)], .ok worked.answer⟩ := by
  have hkept : (l.lent e.name).Keeps l.slots.length e.name := keeps_lent_iff.mpr (.inr ⟨rfl, rfl⟩)
  have hwork := undisturbed_work (hl.lent (congrArg Gate.active h) e.name) hkept (facility o)
  have hout : l.handOut e.name = .ok (l.lent e.name) := handOut_free h e.name
  have hback : ((l.lent e.name).work l.slots.length (facility o)).lending.giveBack l.slots.length =
      ((l.lent e.name).returned l.slots.length e.name, true) := by
    rw [hwork.lending]
    exact giveBack_of_keeps hkept
  exact ⟨_, hwork, by simp only [serve, ho, hout, hback]⟩

/-- A slot that is handed out and released leaves the slots as they were. -/
theorem keeps_returned_lent_iff {name : String} {k : Nat} {other : String} :
    ((l.lent name).returned l.slots.length name).Keeps k other ↔ l.Keeps k other := by
  have hkept : (l.lent name).Keeps l.slots.length name := keeps_lent_iff.mpr (.inr ⟨rfl, rfl⟩)
  rw [keeps_returned_iff hkept, keeps_lent_iff]
  constructor
  · rintro ⟨h | ⟨hk, -⟩, hne⟩
    · exact h
    · exact absurd hk hne
  · intro h
    exact ⟨.inl h, Nat.ne_of_lt h.lt_length⟩

/-- The plain dispatch is that of a facility that looks at the gate once and answers. -/
theorem dispatch_eq_serve_look (hl : Exclusive l) (plain : Order → Gate → α) (e : Entry) :
    let looked := l.serve (fun o => .look fun g => .answer (plain o g)) e
    dispatch plain l.gate e =
      ⟨looked.lending.gate, looked.calls.head?.map fun call => (call.1, ⟨some e.name⟩),
        looked.answer⟩ := by
  intro looked
  cases ho : order e with
  | error failure =>
    have hlooked : looked = ⟨l, [], .error failure⟩ := serve_error ho _ l
    simp only [dispatch, ho, hlooked, List.head?_nil, Option.map_none]
  | ok o =>
    rcases hg : l.gate with ⟨_ | holder⟩
    · obtain ⟨worked, hworked, hserved⟩ :=
        serve_free hl ho hg fun o => .look fun g => .answer (plain o g)
      have hlooked : looked = _ := hserved
      have hanswer : worked.answer = plain o ⟨some e.name⟩ := hworked.answer
      have hfree := Gate.acquire_free e.name
      rw [Gate.free] at hfree
      simp only [dispatch, ho, hfree, hlooked, hanswer, List.head?_cons, Option.map_some]
      rfl
    · have hlooked : looked = ⟨l, [], .error (.busy holder)⟩ := serve_taken ho hg _
      simp only [dispatch, ho, Gate.acquire_taken, hlooked, List.head?_nil, Option.map_none, hg]

/-- Whatever has been called at a gate before, a dispatch calls its facility once if the entry is
downloadable and the gate is free, and otherwise not at all. While the facility works, the gate is
taken under the name of the entry, and whoever tries to acquire it is told so. Afterwards the gate
and its slots are as before, and the result is that of the facility, or the first of the two reasons
for which it was not called. The plain dispatch is the case of a facility that only looks at the
gate. -/
theorem dispatch_brackets_gate (calls : List GateCall) (facility : Order → Work α) (e : Entry) :
    let l := new.run calls
    let served := l.serve facility e
    let handed : Order := ⟨e.name, e.downloadUrl, e.fileName⟩
    served.calls.map Prod.fst =
      (if e.isDownloadable = true ∧ l.gate.active = none then [handed] else []) ∧
    (∀ o worked, (o, worked) ∈ served.calls →
      (∀ g ∈ worked.gates, g.active = some e.name) ∧
      (∀ name answer, (.acquire name, answer) ∈ worked.told → answer = .refused (.busy e.name)) ∧
      worked.answer = (facility handed).answerUnder e.name ∧ served.answer = .ok worked.answer) ∧
    served.lending.gate = l.gate ∧ (∀ k name, served.lending.Keeps k name ↔ l.Keeps k name) ∧
    (e.isDownloadable = false → served.answer = .error (.notDownloadable e.name)) ∧
    (∀ holder, e.isDownloadable = true → l.gate.active = some holder →
      served.answer = .error (.busy holder)) ∧
    ∀ plain : Order → Gate → α,
      let looked := l.serve (fun o => .look fun g => .answer (plain o g)) e
      dispatch plain l.gate e =
        ⟨looked.lending.gate, looked.calls.head?.map fun call => (call.1, ⟨some e.name⟩),
          looked.answer⟩ := by
  intro l served handed
  have hl : Exclusive l := exclusive_run calls
  have hplain (plain : Order → Gate → α) := dispatch_eq_serve_look hl plain e
  cases hdown : e.isDownloadable with
  | false =>
    have ho : order e = .error (.notDownloadable e.name) := by
      rw [order_eq, hdown]
      rfl
    have hserved : served = ⟨l, [], .error (.notDownloadable e.name)⟩ := serve_error ho facility l
    rw [hserved]
    exact ⟨rfl, nofun, rfl, fun k name => Iff.rfl, fun _ => rfl, nofun, hplain⟩
  | true =>
    have ho : order e = .ok handed := by
      rw [order_eq, hdown]
      rfl
    cases hg : l.gate.active with
    | some holder =>
      have hserved : served = ⟨l, [], .error (.busy holder)⟩ :=
        serve_taken ho (congrArg Gate.mk hg) facility
      rw [hserved]
      refine ⟨rfl, nofun, rfl, fun k name => Iff.rfl, nofun, ?_, hplain⟩
      rintro _ - ⟨⟩
      rfl
    | none =>
      have hfree : l.gate = .free := congrArg Gate.mk hg
      obtain ⟨worked, hworked, hserved⟩ := serve_free hl ho hfree facility
      have hserved : served = _ := hserved
      rw [hserved]
      refine ⟨rfl, ?_, hfree.symm, fun k name => keeps_returned_lent_iff, nofun, nofun, hplain⟩
      intro o worked' hmem
      obtain ⟨rfl, rfl⟩ := Prod.mk.inj (List.mem_singleton.mp hmem)
      exact ⟨fun g hg => congrArg Gate.active (hworked.gates g hg),
        fun name answer => hworked.told (.acquire name) answer, hworked.answer, rfl⟩

/-- A facility that tries to acquire the gate it was called through is refused in its own name. -/
example :
    let e : Entry := ⟨.modules, "", "M", "", "", "r", "", "", 1, "1", "u", false⟩
    let served := new.serve (fun _ => .call (.acquire "N") .answer) e
    served.answer = .ok (.refused (.busy "M")) ∧ served.lending.gate = .free :=
  ⟨rfl, rfl⟩

end Lending

end ModuleCatalog.Download
