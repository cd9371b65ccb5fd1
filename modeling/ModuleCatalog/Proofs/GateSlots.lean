import ModuleCatalog.Download.Slots
import Mathlib.Data.List.Induction

/-!
Why one download runs at a time. Giving back a slot frees the gate without a look at who has taken
it, so that all depends on there never being a second slot: a slot is kept exactly while the gate is
taken under its name, whatever is called in whatever order.
-/
namespace ModuleCatalog.Download.Lending

/-- At most one slot is kept, and it is kept exactly while the gate is taken under its name. -/
structure Exclusive (l : Lending) : Prop where
  active_iff : ∀ name, l.gate.active = some name ↔ ∃ k, l.Keeps k name
  unique : ∀ j k name name', l.Keeps j name → l.Keeps k name' → j = k

theorem exclusive_new : Exclusive new := by
  have hkeeps (k : Nat) (name : String) : ¬new.Keeps k name := nofun
  constructor
  · intro name
    exact ⟨nofun, fun ⟨k, h⟩ => absurd h (hkeeps k name)⟩
  · intro j k name name' h
    exact absurd h (hkeeps j name)

/-- The gate and its slots once a slot is handed out. -/
def lent (l : Lending) (name : String) : Lending :=
  ⟨⟨some name⟩, l.slots ++ [⟨name, true⟩]⟩

/-- The gate and its slots once a slot is given back. -/
def returned (l : Lending) (k : Nat) (name : String) : Lending :=
  ⟨.free, l.slots.set k ⟨name, false⟩⟩

/-- What may come of a call, and under which guard. -/
inductive Effect (l : Lending) : GateCall → Lending → GateAnswer → Prop where
  | acquired (name : String) (free : l.gate.active = none) :
      Effect l (.acquire name) (l.lent name) (.acquired l.slots.length)
  | busyAcquire (name : String) {holder : String} (taken : l.gate.active = some holder) :
      Effect l (.acquire name) l (.refused (.busy holder))
  | called {e : Entry} {o : Order} (ordered : order e = .ok o) (free : l.gate.active = none) :
      Effect l (.dispatch e) (l.lent e.name) (.called o l.slots.length)
  | busyDispatch {e : Entry} {o : Order} {holder : String} (ordered : order e = .ok o)
      (taken : l.gate.active = some holder) :
      Effect l (.dispatch e) l (.refused (.busy holder))
  | notDownloadable {e : Entry} {failure : Failure} (ordered : order e = .error failure) :
      Effect l (.dispatch e) l (.refused failure)
  | released {k : Nat} {name : String} (kept : l.Keeps k name) :
      Effect l (.release k) (l.returned k name) (.released true)
  | notKept {k : Nat} (notKept : ∀ name, ¬l.Keeps k name) :
      Effect l (.release k) l (.released false)

/-! What a call comes to where the gate is free, and where it is taken. -/

theorem step_acquire_free {l : Lending} (h : l.gate = .free) (name : String) :
    l.step (.acquire name) = (l.lent name, .acquired l.slots.length) := by
  simp only [step, handOut_free h, lent]

theorem step_acquire_taken {l : Lending} {holder : String} (h : l.gate = ⟨some holder⟩)
    (name : String) : l.step (.acquire name) = (l, .refused (.busy holder)) := by
  simp only [step, handOut_taken h]

theorem step_dispatch_free {l : Lending} {e : Entry} {o : Order} (h : l.gate = .free)
    (ho : order e = .ok o) :
    l.step (.dispatch e) = (l.lent e.name, .called o l.slots.length) := by
  simp only [step, ho, handOut_free h, lent]

theorem step_dispatch_taken {l : Lending} {holder : String} {e : Entry} {o : Order}
    (h : l.gate = ⟨some holder⟩) (ho : order e = .ok o) :
    l.step (.dispatch e) = (l, .refused (.busy holder)) := by
  simp only [step, ho, handOut_taken h]

theorem step_dispatch_error {l : Lending} {e : Entry} {failure : Failure}
    (ho : order e = .error failure) : l.step (.dispatch e) = (l, .refused failure) := by
  simp only [step, ho]

theorem step_release_of_keeps {l : Lending} {k : Nat} {name : String} (h : l.Keeps k name) :
    l.step (.release k) = (l.returned k name, .released true) := by
  simp only [step, giveBack_of_keeps h, returned]

theorem step_release_of_not_keeps {l : Lending} {k : Nat} (h : ∀ name, ¬l.Keeps k name) :
    l.step (.release k) = (l, .released false) := by
  simp only [step, giveBack_of_not_keeps h]

theorem effect_step (l : Lending) (call : GateCall) :
    Effect l call (l.step call).1 (l.step call).2 := by
  cases call with
  | acquire name =>
    rcases hg : l.gate with ⟨_ | holder⟩
    · rw [step_acquire_free hg]
      exact .acquired name (congrArg Gate.active hg)
    · rw [step_acquire_taken hg]
      exact .busyAcquire name (congrArg Gate.active hg)
  | release k =>
    by_cases hk : ∃ name, l.Keeps k name
    · obtain ⟨name, hk⟩ := hk
      rw [step_release_of_keeps hk]
      exact .released hk
    · have hnone : ∀ name, ¬l.Keeps k name := not_exists.mp hk
      rw [step_release_of_not_keeps hnone]
      exact .notKept hnone
  | dispatch e =>
    cases ho : order e with
    | error failure =>
      rw [step_dispatch_error ho]
      exact .notDownloadable ho
    | ok o =>
      rcases hg : l.gate with ⟨_ | holder⟩
      · rw [step_dispatch_free hg ho]
        exact .called ho (congrArg Gate.active hg)
      · rw [step_dispatch_taken hg ho]
        exact .busyDispatch ho (congrArg Gate.active hg)

section Keeps

variable {l : Lending} {j k : Nat} {name name' : String}

theorem Keeps.name_eq (h : l.Keeps k name) (h' : l.Keeps k name') : name = name' := by
  have hslot : (⟨name, true⟩ : Slot) = ⟨name', true⟩ := Option.some.inj (h.symm.trans h')
  exact congrArg Slot.name hslot

theorem Keeps.lt_length (h : l.Keeps k name) : k < l.slots.length :=
  (List.getElem?_eq_some_iff.mp h).1

/-- A slot kept after another was handed out is that one, or was kept before. -/
theorem keeps_lent_iff :
    (l.lent name').Keeps k name ↔ l.Keeps k name ∨ k = l.slots.length ∧ name = name' := by
  change (l.slots ++ [⟨name', true⟩])[k]? = some ⟨name, true⟩ ↔ _
  rcases Nat.lt_trichotomy k l.slots.length with hlt | heq | hgt
  · rw [List.getElem?_append_left hlt]
    constructor
    · exact .inl
    · rintro (h | ⟨h, -⟩)
      · exact h
      · omega
  · subst heq
    have hnew : ¬l.Keeps l.slots.length name := fun h => Nat.lt_irrefl _ h.lt_length
    simp [hnew, eq_comm]
  · have hnone : (l.slots ++ [⟨name', true⟩])[k]? = none := by
      apply List.getElem?_eq_none
      simp
      omega
    rw [hnone]
    constructor
    · intro h
      cases h
    · rintro (h | ⟨h, -⟩)
      · have hlt := h.lt_length
        omega
      · omega

/-- Only the slot that is given back is no longer kept. -/
theorem keeps_returned_iff (h : l.Keeps j name') :
    (l.returned j name').Keeps k name ↔ l.Keeps k name ∧ k ≠ j := by
  change (l.slots.set j ⟨name', false⟩)[k]? = some ⟨name, true⟩ ↔ _
  by_cases hjk : j = k
  · subst hjk
    rw [List.getElem?_set_self h.lt_length]
    simp
  · rw [List.getElem?_set_ne hjk]
    constructor
    · intro hk
      exact ⟨hk, Ne.symm hjk⟩
    · exact And.left

end Keeps

theorem Exclusive.not_keeps {l : Lending} (h : Exclusive l) (hfree : l.gate.active = none) (k : Nat)
    (name : String) : ¬l.Keeps k name := by
  intro hk
  have hactive : l.gate.active = some name := (h.active_iff name).mpr ⟨k, hk⟩
  rw [hfree] at hactive
  cases hactive

theorem Exclusive.lent {l : Lending} (h : Exclusive l) (hfree : l.gate.active = none)
    (name : String) : Exclusive (l.lent name) := by
  have hnone := h.not_keeps hfree
  constructor
  · intro other
    change some name = some other ↔ _
    constructor
    · intro heq
      obtain rfl := Option.some.inj heq
      exact ⟨l.slots.length, keeps_lent_iff.mpr (.inr ⟨rfl, rfl⟩)⟩
    · rintro ⟨k, hk⟩
      rcases keeps_lent_iff.mp hk with hk | ⟨-, rfl⟩
      · exact absurd hk (hnone k other)
      · rfl
  · intro j k a b hj hk
    rcases keeps_lent_iff.mp hj with hj | ⟨rfl, -⟩
    · exact absurd hj (hnone j a)
    · rcases keeps_lent_iff.mp hk with hk | ⟨rfl, -⟩
      · exact absurd hk (hnone k b)
      · rfl

/-- What is given back is the only slot that was kept, so that the gate may be freed. -/
theorem Exclusive.returned {l : Lending} (h : Exclusive l) {k : Nat} {name : String}
    (hk : l.Keeps k name) : Exclusive (l.returned k name) := by
  have hnone (j : Nat) (other : String) : ¬(l.returned k name).Keeps j other := by
    intro hj
    obtain ⟨hj, hne⟩ := (keeps_returned_iff hk).mp hj
    exact hne (h.unique j k other name hj hk)
  constructor
  · intro other
    exact ⟨nofun, fun ⟨j, hj⟩ => absurd hj (hnone j other)⟩
  · intro i j a b hi
    exact absurd hi (hnone i a)

theorem Exclusive.effect {l l' : Lending} {call : GateCall} {answer : GateAnswer}
    (h : Exclusive l) (he : Effect l call l' answer) : Exclusive l' := by
  cases he with
  | acquired name free => exact h.lent free name
  | busyAcquire => exact h
  | called ordered free => exact h.lent free _
  | busyDispatch => exact h
  | notDownloadable => exact h
  | released kept => exact h.returned kept
  | notKept => exact h

theorem exclusive_run (calls : List GateCall) : Exclusive (new.run calls) := by
  induction calls using List.reverseRecOn with
  | nil => exact exclusive_new
  | append_singleton calls call ih =>
    rw [run_append]
    exact ih.effect (effect_step _ call)

/-- A slot is kept until it is released. -/
theorem Keeps.effect {l l' : Lending} {call : GateCall} {answer : GateAnswer} {k : Nat} {name : String}
    (h : l.Keeps k name) (hcall : call ≠ .release k) (he : Effect l call l' answer) :
    l'.Keeps k name := by
  cases he with
  | acquired => exact keeps_lent_iff.mpr (.inl h)
  | busyAcquire => exact h
  | called => exact keeps_lent_iff.mpr (.inl h)
  | busyDispatch => exact h
  | notDownloadable => exact h
  | @released j other kept =>
    refine (keeps_returned_iff kept).mpr ⟨h, ?_⟩
    rintro rfl
    exact hcall rfl
  | notKept => exact h

theorem Keeps.run {l : Lending} {k : Nat} {name : String} {calls : List GateCall} (h : l.Keeps k name)
    (hcalls : .release k ∉ calls) : (l.run calls).Keeps k name := by
  induction calls generalizing l with
  | nil => exact h
  | cons call calls ih =>
    obtain ⟨hcall, hrest⟩ := List.ne_and_not_mem_of_not_mem_cons hcalls
    rw [run_cons]
    exact ih (h.effect hcall.symm (effect_step l call)) hrest

section Exclusive

variable {l : Lending} (h : Exclusive l)

include h

theorem Exclusive.gate_of_none (hnone : ∀ k holder, ¬l.Keeps k holder) : l.gate = .free := by
  cases ha : l.gate.active with
  | none => exact congrArg Gate.mk ha
  | some active =>
    obtain ⟨k, hk⟩ := (h.active_iff active).mp ha
    exact absurd hk (hnone k active)

theorem Exclusive.gate_of_keeps {k : Nat} {holder : String} (hk : l.Keeps k holder) :
    l.gate = ⟨some holder⟩ :=
  congrArg Gate.mk ((h.active_iff holder).mpr ⟨k, hk⟩)

theorem Exclusive.isEnabledFor_iff (name : String) :
    l.gate.isEnabledFor name = true ↔
      (∀ k holder, ¬l.Keeps k holder) ∨ ∃ k, l.Keeps k name := by
  rw [← h.active_iff]
  cases ha : l.gate.active with
  | none =>
    simp only [Gate.isEnabledFor, ha, true_iff]
    exact .inl (h.not_keeps ha)
  | some active =>
    obtain ⟨k, hk⟩ := (h.active_iff active).mp ha
    simp only [Gate.isEnabledFor, ha, beq_iff_eq, Option.some.injEq]
    constructor
    · exact .inr
    · rintro (hnone | heq)
      · exact absurd hk (hnone k active)
      · exact heq

end Exclusive

/-- A dispatch that nobody interrupts is refused as it is here, or it is the call of the dispatch
with the release of the slot that was handed out for it right after. -/
theorem dispatch_alone {α : Type} (facility : Order → Gate → α) (l : Lending) (e : Entry) :
    (∃ o, l.step (.dispatch e) = (l.lent e.name, .called o l.slots.length) ∧
      dispatch facility l.gate e =
        ⟨(l.run [.dispatch e, .release l.slots.length]).gate, some (o, (l.lent e.name).gate),
          .ok (facility o (l.lent e.name).gate)⟩) ∨
    ∃ failure, l.step (.dispatch e) = (l, .refused failure) ∧
      dispatch facility l.gate e = ⟨l.gate, none, .error failure⟩ := by
  cases ho : order e with
  | error failure =>
    refine .inr ⟨failure, step_dispatch_error ho, ?_⟩
    simp only [dispatch, ho]
  | ok o =>
    rcases hg : l.gate with ⟨_ | holder⟩
    · have hcalled := step_dispatch_free hg ho
      have hkept : (l.lent e.name).Keeps l.slots.length e.name :=
        keeps_lent_iff.mpr (.inr ⟨rfl, rfl⟩)
      have hfree : (l.run [.dispatch e, .release l.slots.length]).gate = .free := by
        rw [run_cons, hcalled, run_cons, step_release_of_keeps hkept]
        rfl
      refine .inl ⟨o, hcalled, ?_⟩
      rw [hfree]
      simp only [dispatch, ho]
      rfl
    · refine .inr ⟨.busy holder, step_dispatch_taken hg ho, ?_⟩
      simp only [dispatch, ho, Gate.acquire_taken]

/-- In every history of a gate, one slot at most is kept, and the gate says under which name. An
acquisition or the dispatch of a downloadable entry is let through exactly when no slot is kept, and
otherwise names the holder and changes nothing; the slot that is kept stays so until it is released,
which frees the gate, and a release of anything else changes nothing. A dispatch from beginning to
end is the call of it and the release of its slot. -/
theorem one_slot_at_a_time (calls : List GateCall) :
    let l := new.run calls
    (∀ j k name name', l.Keeps j name → l.Keeps k name' → j = k ∧ name = name') ∧
    (∀ name, l.gate.active = some name ↔ ∃ k, l.Keeps k name) ∧
    (∀ name, l.gate.isEnabledFor name = true ↔
      (∀ k holder, ¬l.Keeps k holder) ∨ ∃ k, l.Keeps k name) ∧
    ((∀ k holder, ¬l.Keeps k holder) →
      (∀ name, l.step (.acquire name) = (l.lent name, .acquired l.slots.length) ∧
        (l.lent name).Keeps l.slots.length name) ∧
      ∀ e o, order e = .ok o →
        l.step (.dispatch e) = (l.lent e.name, .called o l.slots.length)) ∧
    (∀ k holder, l.Keeps k holder →
      (∀ name, l.step (.acquire name) = (l, .refused (.busy holder))) ∧
      (∀ e o, order e = .ok o → l.step (.dispatch e) = (l, .refused (.busy holder))) ∧
      (∀ later, .release k ∉ later → (l.run later).gate.active = some holder) ∧
      (l.step (.release k)).2 = .released true ∧
      (l.step (.release k)).1.gate = .free ∧
      ∀ j name, ¬(l.step (.release k)).1.Keeps j name) ∧
    (∀ e failure, order e = .error failure → l.step (.dispatch e) = (l, .refused failure)) ∧
    (∀ k, (∀ name, ¬l.Keeps k name) → l.step (.release k) = (l, .released false)) ∧
    ∀ (α : Type) (facility : Order → Gate → α) (e : Entry),
      (∃ o, l.step (.dispatch e) = (l.lent e.name, .called o l.slots.length) ∧
        dispatch facility l.gate e =
          ⟨(l.run [.dispatch e, .release l.slots.length]).gate, some (o, (l.lent e.name).gate),
            .ok (facility o (l.lent e.name).gate)⟩) ∨
      ∃ failure, l.step (.dispatch e) = (l, .refused failure) ∧
        dispatch facility l.gate e = ⟨l.gate, none, .error failure⟩ := by
  intro l
  have h : Exclusive l := exclusive_run calls
  refine ⟨?_, h.active_iff, h.isEnabledFor_iff, ?_, ?_, ?_, ?_, ?_⟩
  · intro j k name name' hj hk
    obtain rfl := h.unique j k name name' hj hk
    exact ⟨rfl, hj.name_eq hk⟩
  · intro hnone
    have hfree : l.gate = .free := h.gate_of_none hnone
    constructor
    · intro name
      exact ⟨step_acquire_free hfree name, keeps_lent_iff.mpr (.inr ⟨rfl, rfl⟩)⟩
    · intro e o ho
      exact step_dispatch_free hfree ho
  · intro k holder hk
    have htaken : l.gate = ⟨some holder⟩ := h.gate_of_keeps hk
    refine ⟨step_acquire_taken htaken, fun e o => step_dispatch_taken htaken, ?_, ?_⟩
    · intro later hlater
      have hlast : Exclusive (l.run later) := by
        rw [← run_append]
        exact exclusive_run (calls ++ later)
      exact (hlast.active_iff holder).mpr ⟨k, hk.run hlater⟩
    · rw [step_release_of_keeps hk]
      exact ⟨rfl, rfl, (h.returned hk).not_keeps rfl⟩
  · intro e failure
    exact step_dispatch_error
  · intro k
    exact step_release_of_not_keeps
  · intro α facility e
    exact dispatch_alone facility l e

/-- While an entry is being dispatched, its facility tries the gate and a slot of before is released
once more. -/
theorem one_slot_at_a_time_nested :
    let e : Entry := ⟨.modules, "", "M", "", "", "r", "", "", 1, "1", "u", false⟩
    let calls : List GateCall := [.acquire "a", .release 0, .dispatch e]
    let l := new.run calls
    let later : List GateCall := [.acquire "nested", .release 0]
    l.Keeps 1 "M" ∧ .release 1 ∉ later ∧ (l.run later).gate.active = some "M" ∧
      l.step (.acquire "nested") = (l, .refused (.busy "M")) ∧
      (l.step (.release 1)).1.gate = .free := by
  intro e calls l later
  have hkept : l.Keeps 1 "M" := by
    change l.slots[1]? = some ⟨"M", true⟩
    decide
  have hlater : .release 1 ∉ later := by decide
  obtain ⟨-, -, -, -, hlive, -, -, -⟩ := one_slot_at_a_time calls
  obtain ⟨hrefused, -, hstays, -, hfree, -⟩ := hlive 1 "M" hkept
  exact ⟨hkept, hlater, hstays later hlater, hrefused "nested", hfree⟩

end ModuleCatalog.Download.Lending
