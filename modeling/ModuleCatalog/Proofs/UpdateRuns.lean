import ModuleCatalog.Listing.Watching
import Mathlib.Data.List.Nodup

/-!
What a run of updates leaves of a list. Of the updates of one identity the last one counts; it
stands in the place of the first entry with that identity, or behind the list if there is none, in
the order in which the identities came up.
-/
namespace ModuleCatalog

namespace Board

/-- The update that counts for an identity. -/
def lastUpdate? (updates : List Entry) (k : Identity) : Option Entry :=
  updates.findRev? (·.identity == k)

/-- The entries, each first holder of an identity overwritten by the update that counts for it. -/
def overwritten (entries updates : List Entry) : List Entry :=
  entries.mapIdx fun i e =>
    if e.identity ∈ (entries.map Entry.identity).take i then e
    else (lastUpdate? updates e.identity).getD e

/-- The identities that come up in the updates and not among the entries, in the order in which they
come up first. -/
def newIdentities (entries updates : List Entry) : List Identity :=
  ((updates.map Entry.identity).filter fun k => k ∉ entries.map Entry.identity).eraseDups

/-- The entries as a map from identities to entries that the updates are put into. -/
def withUpdates (entries updates : List Entry) : List Entry :=
  overwritten entries updates ++ (newIdentities entries updates).filterMap (lastUpdate? updates)

section LastUpdate

variable {u : Entry} {k : Identity}

theorem lastUpdate?_cons_self (u : Entry) (us : List Entry) :
    lastUpdate? (u :: us) u.identity = some ((lastUpdate? us u.identity).getD u) := by
  rw [lastUpdate?, List.findRev?, ← lastUpdate?]
  cases lastUpdate? us u.identity <;> simp

theorem lastUpdate?_cons_of_ne (h : u.identity ≠ k) (us : List Entry) :
    lastUpdate? (u :: us) k = lastUpdate? us k := by
  rw [lastUpdate?, List.findRev?, ← lastUpdate?]
  cases lastUpdate? us k <;> simp [h]

theorem lastUpdate?_eq_none_iff {us : List Entry} :
    lastUpdate? us k = none ↔ k ∉ us.map Entry.identity := by
  rw [lastUpdate?, List.findRev?_eq_find?_reverse, List.find?_eq_none]
  simp

/-- Where no identity comes up twice, every update counts. -/
theorem lastUpdate?_eq_some_iff {us : List Entry} (h : (us.map Entry.identity).Nodup) {e : Entry} :
    lastUpdate? us k = some e ↔ e ∈ us ∧ e.identity = k := by
  constructor
  · intro hlast
    rw [lastUpdate?, List.findRev?_eq_find?_reverse] at hlast
    exact ⟨List.mem_reverse.mp (List.mem_of_find?_eq_some hlast),
      by simpa using List.find?_some hlast⟩
  · rintro ⟨he, rfl⟩
    induction us with
    | nil => cases he
    | cons u us ih =>
      rw [List.map_cons, List.nodup_cons] at h
      rcases List.mem_cons.mp he with rfl | hus
      · rw [lastUpdate?_cons_self, lastUpdate?_eq_none_iff.mpr h.1]
        rfl
      · have hne : u.identity ≠ e.identity := by
          intro heq
          exact h.1 (heq ▸ List.mem_map_of_mem hus)
        rw [lastUpdate?_cons_of_ne hne, ih h.2 hus]

end LastUpdate

section Step

variable {entries : List Entry} {u : Entry}

/-- An update of an identity in the list replaces its first holder. -/
theorem exists_replaceOrAppend_eq_set (h : u.identity ∈ entries.map Entry.identity) :
    ∃ i x, entries[i]? = some x ∧ x.identity = u.identity ∧
      u.identity ∉ (entries.map Entry.identity).take i ∧
      replaceOrAppend u entries = entries.set i u := by
  induction entries with
  | nil => cases h
  | cons e es ih =>
    by_cases he : e.identity = u.identity
    · exact ⟨0, e, rfl, he, List.not_mem_nil, by rw [replaceOrAppend, if_pos he]; rfl⟩
    · have hes : u.identity ∈ es.map Entry.identity := by
        rcases List.mem_cons.mp h with heq | hes
        · exact absurd heq.symm he
        · exact hes
      obtain ⟨i, x, hx, hidentity, hfirst, hset⟩ := ih hes
      refine ⟨i + 1, x, hx, hidentity, ?_, ?_⟩
      · rw [List.map_cons, List.take_succ_cons, List.mem_cons, not_or]
        exact ⟨Ne.symm he, hfirst⟩
      · rw [replaceOrAppend, if_neg he, hset]
        rfl

theorem replaceOrAppend_of_not_mem (h : u.identity ∉ entries.map Entry.identity) :
    replaceOrAppend u entries = entries ++ [u] := by
  induction entries with
  | nil => rfl
  | cons e es ih =>
    rw [List.map_cons, List.mem_cons, not_or] at h
    rw [replaceOrAppend, if_neg (Ne.symm h.1), ih h.2]
    rfl

theorem map_identity_set {i : Nat} {x : Entry} (hi : entries[i]? = some x)
    (hidentity : x.identity = u.identity) :
    (entries.set i u).map Entry.identity = entries.map Entry.identity := by
  apply List.ext_getElem?
  intro j
  rw [List.getElem?_map, List.getElem?_map, List.getElem?_set]
  by_cases h : i = j
  · subst h
    rw [hi]
    simp [hidentity, (List.getElem?_eq_some_iff.mp hi).1]
  · rw [if_neg h]

theorem identity_mem_take {i j : Nat} {x : Entry} (hi : entries[i]? = some x) (hij : i < j) :
    x.identity ∈ (entries.map Entry.identity).take j := by
  apply List.mem_of_getElem? (i := i)
  rw [List.getElem?_take_of_lt hij, List.getElem?_map, hi, Option.map_some]

theorem getElem?_overwritten (entries updates : List Entry) (i : Nat) :
    (overwritten entries updates)[i]? = entries[i]?.map fun e =>
      if e.identity ∈ (entries.map Entry.identity).take i then e
      else (lastUpdate? updates e.identity).getD e := by
  rw [overwritten, List.getElem?_mapIdx]

/-- A first holder that is replaced and then overwritten is overwritten by all the updates. -/
theorem overwritten_set {i : Nat} {x : Entry} (hi : entries[i]? = some x)
    (hidentity : x.identity = u.identity)
    (hfirst : u.identity ∉ (entries.map Entry.identity).take i) (us : List Entry) :
    overwritten (entries.set i u) us = overwritten entries (u :: us) := by
  apply List.ext_getElem?
  intro j
  rw [getElem?_overwritten, getElem?_overwritten, map_identity_set hi hidentity]
  by_cases h : i = j
  · subst h
    rw [List.getElem?_set_self (List.getElem?_eq_some_iff.mp hi).1, hi, Option.map_some,
      Option.map_some, hidentity, if_neg hfirst, if_neg hfirst, lastUpdate?_cons_self,
      Option.getD_some]
  · rw [List.getElem?_set_ne h]
    refine Option.map_congr fun e he => ?_
    by_cases hseen : e.identity ∈ (entries.map Entry.identity).take j
    · rw [if_pos hseen, if_pos hseen]
    · have hne : u.identity ≠ e.identity := by
        intro heq
        rcases Nat.lt_or_gt_of_ne h with hlt | hgt
        · exact hseen (heq ▸ hidentity ▸ identity_mem_take hi hlt)
        · exact hfirst (heq ▸ identity_mem_take he hgt)
      rw [if_neg hseen, if_neg hseen, lastUpdate?_cons_of_ne hne]

theorem overwritten_concat (h : u.identity ∉ entries.map Entry.identity) (us : List Entry) :
    overwritten (entries ++ [u]) us =
      overwritten entries (u :: us) ++ [(lastUpdate? us u.identity).getD u] := by
  have hold : (entries.mapIdx fun i e =>
        if e.identity ∈ ((entries ++ [u]).map Entry.identity).take i then e
        else (lastUpdate? us e.identity).getD e) = overwritten entries (u :: us) := by
    apply List.ext_getElem?
    intro i
    rw [getElem?_overwritten, List.getElem?_mapIdx]
    refine Option.map_congr fun e he => ?_
    have hlt : i ≤ (entries.map Entry.identity).length := by
      rw [List.length_map]
      exact Nat.le_of_lt (List.getElem?_eq_some_iff.mp he).1
    have hne : u.identity ≠ e.identity := by
      intro heq
      exact h (heq ▸ List.mem_map_of_mem (List.mem_of_getElem? he))
    rw [List.map_append, List.take_append_of_le_length hlt, lastUpdate?_cons_of_ne hne]
  rw [overwritten, List.mapIdx_concat, hold]
  simp [h]

end Step

section Run

variable {entries : List Entry} {u : Entry}

theorem map_identity_replaceOrAppend (entries : List Entry) (u : Entry) :
    (replaceOrAppend u entries).map Entry.identity =
      if u.identity ∈ entries.map Entry.identity then entries.map Entry.identity
      else entries.map Entry.identity ++ [u.identity] := by
  by_cases h : u.identity ∈ entries.map Entry.identity
  · obtain ⟨i, x, hi, hidentity, -, hset⟩ := exists_replaceOrAppend_eq_set h
    rw [if_pos h, hset, map_identity_set hi hidentity]
  · rw [if_neg h, replaceOrAppend_of_not_mem h, List.map_append, List.map_singleton]

theorem newIdentities_replaceOrAppend (entries : List Entry) (u : Entry) (us : List Entry) :
    newIdentities entries (u :: us) =
      (if u.identity ∈ entries.map Entry.identity then [] else [u.identity]) ++
        newIdentities (replaceOrAppend u entries) us := by
  by_cases h : u.identity ∈ entries.map Entry.identity
  · rw [if_pos h, newIdentities, newIdentities, map_identity_replaceOrAppend, if_pos h,
      List.map_cons, List.filter_cons_of_neg (by simpa using h), List.nil_append]
  · rw [if_neg h, newIdentities, newIdentities, map_identity_replaceOrAppend, if_neg h,
      List.map_cons, List.filter_cons_of_pos (by simpa using h), List.eraseDups_cons,
      List.filter_filter, List.singleton_append]
    refine congrArg (u.identity :: List.eraseDups ·) (List.filter_congr fun k _ => ?_)
    by_cases hk : k = u.identity <;> simp [hk]

/-- Putting one update into the list and then the others is putting all of them into it. -/
theorem withUpdates_replaceOrAppend (entries : List Entry) (u : Entry) (us : List Entry) :
    withUpdates (replaceOrAppend u entries) us = withUpdates entries (u :: us) := by
  -- An identity that is still new after the update is not that of the update.
  have hlater : (newIdentities (replaceOrAppend u entries) us).filterMap (lastUpdate? (u :: us)) =
      (newIdentities (replaceOrAppend u entries) us).filterMap (lastUpdate? us) := by
    refine List.filterMap_congr fun k hk => lastUpdate?_cons_of_ne ?_ us
    rintro rfl
    rw [newIdentities, List.mem_eraseDups, List.mem_filter, map_identity_replaceOrAppend] at hk
    by_cases h : u.identity ∈ entries.map Entry.identity <;> simp [h] at hk
  rw [withUpdates, withUpdates, newIdentities_replaceOrAppend, List.filterMap_append, hlater]
  by_cases h : u.identity ∈ entries.map Entry.identity
  · obtain ⟨i, x, hi, hidentity, hfirst, hset⟩ := exists_replaceOrAppend_eq_set h
    rw [if_pos h, hset, overwritten_set hi hidentity hfirst, List.filterMap_nil, List.nil_append]
  · rw [if_neg h, replaceOrAppend_of_not_mem h, overwritten_concat h, List.append_assoc]
    simp [lastUpdate?_cons_self]

theorem withUpdates_nil (entries : List Entry) : withUpdates entries [] = entries := by
  have hold : overwritten entries [] = entries := by
    apply List.ext_getElem?
    intro i
    rw [getElem?_overwritten]
    cases entries[i]? with
    | none => rfl
    | some e => exact congrArg some (ite_self e)
  rw [withUpdates, hold]
  exact List.append_nil entries

/-- The new entries have the new identities, one each. -/
theorem map_identity_withUpdates (entries us : List Entry) :
    (withUpdates entries us).map Entry.identity =
      entries.map Entry.identity ++ newIdentities entries us := by
  induction us generalizing entries with
  | nil =>
    rw [withUpdates_nil]
    exact (List.append_nil _).symm
  | cons u us ih =>
    rw [← withUpdates_replaceOrAppend, ih, map_identity_replaceOrAppend,
      newIdentities_replaceOrAppend]
    by_cases hu : u.identity ∈ entries.map Entry.identity
    · rw [if_pos hu, if_pos hu, List.nil_append]
    · rw [if_neg hu, if_neg hu, List.append_assoc]

theorem nodup_withUpdates {entries : List Entry} (h : (entries.map Entry.identity).Nodup)
    (us : List Entry) : ((withUpdates entries us).map Entry.identity).Nodup := by
  induction us generalizing entries with
  | nil => rwa [withUpdates_nil]
  | cons u us ih =>
    rw [← withUpdates_replaceOrAppend]
    apply ih
    rw [map_identity_replaceOrAppend]
    by_cases hu : u.identity ∈ entries.map Entry.identity
    · rwa [if_pos hu]
    · rw [if_neg hu, ← List.concat_eq_append]
      exact h.concat hu

theorem newIdentities_eq_nil {us : List Entry}
    (h : us.map Entry.identity ⊆ entries.map Entry.identity) : newIdentities entries us = [] := by
  have hnone : ((us.map Entry.identity).filter fun k => k ∉ entries.map Entry.identity) = [] := by
    rw [List.filter_eq_nil_iff]
    intro k hk
    simpa using h hk
  rw [newIdentities, hnone]
  rfl

/-- Updates of different entries of the list can be put into it in any order. -/
theorem withUpdates_perm {us us' : List Entry} (hperm : us.Perm us')
    (hnodup : (us.map Entry.identity).Nodup)
    (hsub : us.map Entry.identity ⊆ entries.map Entry.identity) :
    withUpdates entries us = withUpdates entries us' := by
  have hperm' : (us.map Entry.identity).Perm (us'.map Entry.identity) := hperm.map _
  have hlast : lastUpdate? us = lastUpdate? us' := by
    funext k
    apply Option.ext
    intro e
    rw [lastUpdate?_eq_some_iff hnodup, lastUpdate?_eq_some_iff (hperm'.nodup_iff.mp hnodup),
      hperm.mem_iff]
  have hsub' : us'.map Entry.identity ⊆ entries.map Entry.identity :=
    fun k hk => hsub (hperm'.mem_iff.mpr hk)
  rw [withUpdates, withUpdates, newIdentities_eq_nil hsub, newIdentities_eq_nil hsub', overwritten,
    overwritten, hlast]

end Run

end Board

namespace Watched

variable {w : Watched} {generation : Nat} {entries : List Entry}

theorem step_update_ready (h : w.board.snapshot = ⟨generation, .ready entries⟩) (u : Entry) :
    w.step (.update generation u) =
      ({ w with board :=
          w.board.post ⟨generation, .ready (Board.replaceOrAppend u entries)⟩ }, .written true) := by
  have hlisting : w.board.snapshot.listing = .ready entries := by rw [h]
  obtain rfl : w.board.generation = generation := congrArg Snapshot.generation h
  rw [step, Board.update_ready hlisting]
  rfl

theorem run_updates (h : w.board.snapshot = ⟨generation, .ready entries⟩) (us : List Entry) :
    w.run (us.map (.update generation)) =
        { w with board :=
          ⟨⟨generation, .ready (Board.withUpdates entries us)⟩, w.board.changes + us.length⟩ } ∧
      w.responses (us.map (.update generation)) = us.map fun _ => .written true := by
  induction us generalizing w entries with
  | nil =>
    refine ⟨?_, rfl⟩
    rw [Board.withUpdates_nil, ← h]
    rfl
  | cons u us ih =>
    obtain ⟨hrun, hresponses⟩ :=
      ih (w := (w.step (.update generation u)).1) (by rw [step_update_ready h]; rfl)
    rw [List.map_cons, run_cons, hrun, responses, hresponses, step_update_ready h,
      Board.withUpdates_replaceOrAppend]
    refine ⟨?_, rfl⟩
    simp only [Board.post, List.length_cons]
    rw [Nat.add_assoc, Nat.add_comm 1]

/-- Updates of the current generation to a list that is up are all accepted. They leave the list
that has them put into it as into a map: of the updates of one identity the last one counts; it
stands in the place of the first entry with that identity, or behind the list, where the new
identities stand in the order in which they came up. Updates of different entries of the list can
come in any order, and a list without two entries of one identity stays so. -/
theorem updates_put_into_list (w : Watched) (generation : Nat) (entries updates : List Entry)
    (h : w.board.snapshot = ⟨generation, .ready entries⟩) :
    let after (updates : List Entry) := w.run (updates.map (.update generation))
    (after updates).board.snapshot = ⟨generation, .ready (Board.withUpdates entries updates)⟩ ∧
    (Board.withUpdates entries updates).map Entry.identity =
      entries.map Entry.identity ++ Board.newIdentities entries updates ∧
    w.responses (updates.map (.update generation)) = updates.map (fun _ => .written true) ∧
    (∀ updates', updates.Perm updates' → (updates.map Entry.identity).Nodup →
      updates.map Entry.identity ⊆ entries.map Entry.identity →
        (after updates').board.snapshot = (after updates).board.snapshot) ∧
    ((entries.map Entry.identity).Nodup → ∀ list,
      (after updates).board.snapshot.listing = .ready list → (list.map Entry.identity).Nodup) := by
  intro after
  have hafter (updates : List Entry) : (after updates).board.snapshot =
      ⟨generation, .ready (Board.withUpdates entries updates)⟩ := by
    simp only [after]
    rw [(run_updates h updates).1]
  refine ⟨hafter updates, Board.map_identity_withUpdates entries updates,
    (run_updates h updates).2, ?_, ?_⟩
  · intro updates' hperm hnodup hsub
    rw [hafter, hafter, Board.withUpdates_perm hperm hnodup hsub]
  · intro hnodup list hlist
    rw [hafter] at hlist
    obtain rfl := Listing.ready.inj hlist
    exact Board.nodup_withUpdates hnodup updates

/-- The identity "a" is in the list twice and updated once, "b" is updated twice, and "z" is new and
updated again after it was put behind the list. Two updates of different entries commute. -/
theorem updates_put_into_list_repeated :
    let e (id author : String) : Entry :=
      ⟨.metaModules, id, id, "", author, "", "", "", 1, "", "", true⟩
    let up (entries : List Entry) := new.run [.begin, .putUp 1 entries]
    let after (entries updates : List Entry) :=
      ((up entries).run (updates.map (.update 1))).board.snapshot
    (up [e "a" "0", e "b" "0", e "a" "1"]).board.snapshot =
        ⟨1, .ready [e "a" "0", e "b" "0", e "a" "1"]⟩ ∧
      after [e "a" "0", e "b" "0", e "a" "1"]
          [e "b" "2", e "z" "2", e "y" "2", e "a" "2", e "z" "3", e "b" "3"] =
        ⟨1, .ready [e "a" "2", e "b" "3", e "a" "1", e "z" "3", e "y" "2"]⟩ ∧
      after [e "a" "0", e "b" "0"] [e "b" "2", e "a" "2"] =
        after [e "a" "0", e "b" "0"] [e "a" "2", e "b" "2"] := by
  intro e up after
  have hready (entries : List Entry) : (up entries).board.snapshot = ⟨1, .ready entries⟩ := rfl
  obtain ⟨hrepeated, -⟩ := updates_put_into_list _ 1 _
    [e "b" "2", e "z" "2", e "y" "2", e "a" "2", e "z" "3", e "b" "3"]
    (hready [e "a" "0", e "b" "0", e "a" "1"])
  obtain ⟨-, -, -, hperm, -⟩ := updates_put_into_list _ 1 _ [e "a" "2", e "b" "2"]
    (hready [e "a" "0", e "b" "0"])
  refine ⟨hready _, hrepeated.trans (by decide), ?_⟩
  exact hperm [e "b" "2", e "a" "2"] (List.Perm.swap _ _ _) (by decide) (by decide)

end Watched

end ModuleCatalog
