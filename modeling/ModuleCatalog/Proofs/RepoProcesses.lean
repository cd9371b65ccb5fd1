import ModuleCatalog.CommandLine.Series
import ModuleCatalog.Proofs.RepoCommands
import ModuleCatalog.Proofs.SavedSources
import ModuleCatalog.Proofs.WritableFiles

/-!
Commands on the source list, each of them run as a process of its own. One process after another
loads the list, changes it and saves it, and together they do what the edits of their commands do in
memory, one after another, on the list that the first of them found.
-/
namespace ModuleCatalog.CommandLine

open Sources (Edit)

/-! ## One process -/

/-- The arguments ask for a command on the source list at a path, where `default` is the place of
the list unless another is given. -/
def Asks (default path : String) (args : List String) (command : RepoCommand) : Prop :=
  ∃ settings, parse? args = some (.run settings (.repo command)) ∧
    settings.sources.getD default = path

/-- The message for a command that is refused: it names position zero, or its edit is refused. -/
def RefusedWith (s : Sources) (command : RepoCommand) (message : String) : Prop :=
  command.edit? = none ∧ message = "Repository positions start at 1" ∨
    ∃ e fault, command.edit? = some e ∧ (e.run s).1 = .error fault ∧ message = refusal fault

/-- What a process leaves that finds a source list and is asked for a command on it. It succeeds
where the edit of the command is accepted in memory, and then the file holds what the edit makes of
the list; otherwise, and where it only lists, it leaves the files as they were. The address that it
removes or replaces is the one that the list shows at the position. -/
structure Performs (files : FileTree) (path : String) (s : Sources) (command : RepoCommand)
    (o : Outcome) : Prop where
  loaded : Sources.load files path = .ok s
  succeeds_iff : o.exit = 0 ↔
    command = .list ∨ ∃ e answer, command.edit? = some e ∧ (e.run s).1 = .ok answer
  saved : ∀ e, command.edit? = some e → o.exit = 0 → Sources.load o.files path = .ok (e.run s).2
  untouched : o.exit ≠ 0 ∨ command = .list → o.files = files
  refused : o.exit ≠ 0 →
    o.exit = 1 ∧ ∃ message, o.error = some message ∧ RefusedWith s command message
  shown : command = .list → o.output = listOf s
  removed : ∀ position, command = .remove position → o.exit = 0 →
    ∃ pre url post, s.urls = pre ++ url :: post ∧ position = pre.length + 1 ∧
      ShowsAt s position url ∧ o.output = "Removed repository " ++ url ++ "\n" ∧
      Sources.load o.files path = .ok { s with urls := pre ++ post }
  replaced : ∀ position new, command = .edit position new → o.exit = 0 →
    ∃ pre url post, s.urls = pre ++ url :: post ∧ position = pre.length + 1 ∧
      ShowsAt s position url ∧
      Sources.load o.files path = .ok { s with urls := pre ++ Text.trim new :: post }

section Process

variable {w : World} {path : String} {args : List String} {s : Sources} {command : RepoCommand}

theorem run_of_asks (h : Asks w.sourcesPath path args command) :
    run w args =
      match Sources.load w.files path with
      | .error e => failed w.files "" [] e.message
      | .ok s => runRepo w path s command := by
  obtain ⟨settings, hparse, rfl⟩ := h
  rw [run, hparse]
  rfl

theorem performs_listed (hload : Sources.load w.files path = .ok s) :
    Performs w.files path s .list (succeeded w.files (listOf s) []) where
  loaded := hload
  succeeds_iff := iff_of_true rfl (.inl rfl)
  saved := nofun
  untouched := fun _ => rfl
  refused := fun h => absurd rfl h
  shown := fun _ => rfl
  removed := nofun
  replaced := nofun

theorem performs_failed {message : String} (hload : Sources.load w.files path = .ok s)
    (hedits : command ≠ .list) (hwhy : RefusedWith s command message) :
    Performs w.files path s command (failed w.files "" [] message) where
  loaded := hload
  succeeds_iff := by
    refine iff_of_false nofun ?_
    rintro (hlist | ⟨e, answer, hasked, hanswer⟩)
    · exact hedits hlist
    · rcases hwhy with ⟨hnone, -⟩ | ⟨e', fault, hasked', hfault, -⟩
      · rw [hnone] at hasked
        cases hasked
      · obtain rfl : e = e' := Option.some.inj (hasked.symm.trans hasked')
        rw [hanswer] at hfault
        cases hfault
  saved := fun _ _ h => by cases h
  untouched := fun _ => rfl
  refused := fun _ => ⟨rfl, message, rfl, hwhy⟩
  shown := fun h => absurd h hedits
  removed := fun _ _ h => by cases h
  replaced := fun _ _ _ h => by cases h

theorem performs_accepted {e : Edit} {answer : Option String} {after : Sources} {output : String}
    {files : FileTree} (hload : Sources.load w.files path = .ok s) (hasked : command.edit? = some e)
    (hperformed : e.run s = (.ok answer, after))
    (hreported : ∀ url, answer = some url → output = "Removed repository " ++ url ++ "\n")
    (hsaved : Sources.load files path = .ok after) :
    Performs w.files path s command (succeeded files output []) where
  loaded := hload
  succeeds_iff := iff_of_true rfl (.inr ⟨e, answer, hasked, by rw [hperformed]⟩)
  saved := fun e' hasked' _ => by
    obtain rfl : e = e' := Option.some.inj (hasked.symm.trans hasked')
    rw [hperformed]
    exact hsaved
  untouched := by
    rintro (hexit | hlist)
    · exact absurd rfl hexit
    · exact absurd hlist (RepoCommand.ne_list hasked)
  refused := fun h => absurd rfl h
  shown := fun hlist => absurd hlist (RepoCommand.ne_list hasked)
  removed := by
    rintro position rfl -
    cases position with
    | zero => cases hasked
    | succ index =>
      obtain rfl : .remove index = e := Option.some.inj hasked
      obtain ⟨pre, url, post, hanswer, hurls, rfl, rfl⟩ := Edit.exists_of_run_remove hperformed
      exact ⟨pre, url, post, hurls, rfl, showsAt_of_split hurls, hreported url hanswer, hsaved⟩
  replaced := by
    rintro position new rfl -
    cases position with
    | zero => cases hasked
    | succ index =>
      obtain rfl : .replace index new = e := Option.some.inj hasked
      obtain ⟨pre, url, post, hurls, rfl, rfl⟩ := Edit.exists_of_run_replace hperformed
      exact ⟨pre, url, post, hurls, rfl, showsAt_of_split hurls, hsaved⟩

theorem runRepo_refused {message : String} (h : changed s command = .error message) :
    runRepo w path s command = failed w.files "" [] message := by
  rw [runRepo, h]

theorem runRepo_listed {after : Sources} {output : String}
    (h : changed s .list = .ok (after, output)) :
    runRepo w path s .list = succeeded w.files output [] := by
  rw [runRepo, h]
  rfl

theorem runRepo_accepted {after : Sources} {output : String}
    (h : changed s command = .ok (after, output)) (hedits : command ≠ .list)
    (hsaved : (Sources.save w.files path after).error = none) :
    runRepo w path s command =
      succeeded (Sources.save w.files path after).files output [] := by
  rw [runRepo, h]
  simp only [if_neg hedits, hsaved]

/-- A process does what its command asks for, and leaves a file that can be written again. -/
theorem performs_run (h : Asks w.sourcesPath path args command)
    (hload : Sources.load w.files path = .ok s) (hwritable : Sources.Writable w.files path) :
    Performs w.files path s command (run w args) ∧ Sources.Writable (run w args).files path := by
  have hsound : Sources.Sound s := Sources.Initial.sound (.inr ⟨_, _, hload⟩)
  have hrun : run w args = runRepo w path s command := by rw [run_of_asks h, hload]
  rw [hrun]
  generalize hchanged : changed s command = result
  have hspec : Changed s command result := hchanged ▸ changed_spec s command
  cases hspec with
  | listed lists =>
    subst lists
    rw [runRepo_listed hchanged]
    exact ⟨performs_listed hload, hwritable⟩
  | @accepted e answer after output asked performed reported =>
    have hedits : command ≠ .list := RepoCommand.ne_list asked
    have hafter : Sources.Sound after := by
      have heffect := e.effect_run s
      rw [performed] at heffect
      exact hsound.effect heffect
    have hsaved := hwritable.save after
    have hloaded := hafter.load_save hsaved
    have hnext := hwritable.after_save after
    rw [runRepo_accepted hchanged hedits hsaved]
    generalize (Sources.save w.files path after).files = files at hloaded hnext ⊢
    exact ⟨performs_accepted hload asked performed reported hloaded, hnext⟩
  | @refused e fault asked performed =>
    have hedits : command ≠ .list := RepoCommand.ne_list asked
    rw [runRepo_refused hchanged]
    refine ⟨?_, hwritable⟩
    exact performs_failed hload hedits (.inr ⟨e, fault, asked, by rw [performed], rfl⟩)
  | noPosition asked edits =>
    rw [runRepo_refused hchanged]
    exact ⟨performs_failed hload edits (.inl ⟨asked, rfl⟩), hwritable⟩

end Process

/-! ## One process after another -/

/-- The edits of the commands whose processes succeeded, in order. -/
def succeededEdits (commands : List RepoCommand) (outcomes : List Outcome) : List Edit :=
  (commands.zip outcomes).filterMap fun (command, o) => if o.exit = 0 then command.edit? else none

theorem succeededEdits_cons (command : RepoCommand) (commands : List RepoCommand) (o : Outcome)
    (outcomes : List Outcome) :
    succeededEdits (command :: commands) (o :: outcomes) =
      succeededEdits [command] [o] ++ succeededEdits commands outcomes := by
  simp only [succeededEdits, List.zip_cons_cons, List.filterMap_cons, List.zip_nil_left,
    List.filterMap_nil]
  split <;> rfl

section Series

variable {files : FileTree} {path : String} {s start : Sources} {command : RepoCommand} {o : Outcome}
  {w : World} {lines : List (List String)} {commands : List RepoCommand}

/-- What a process leaves is loaded as the list after its edit, if it succeeded, and as the list
that it found otherwise. -/
theorem Performs.load_files (h : Performs files path s command o) :
    Sources.load o.files path = .ok (Edit.runAll (succeededEdits [command] [o]) s) := by
  by_cases hexit : o.exit = 0
  · cases hasked : command.edit? with
    | none =>
      have hlist : command = .list := by
        rcases h.succeeds_iff.mp hexit with hlist | ⟨e, answer, hsome, -⟩
        · exact hlist
        · rw [hasked] at hsome
          cases hsome
      have hnone : succeededEdits [command] [o] = [] := by simp [succeededEdits, hasked]
      rw [hnone, h.untouched (.inr hlist)]
      exact h.loaded
    | some e =>
      have hone : succeededEdits [command] [o] = [e] := by simp [succeededEdits, hexit, hasked]
      rw [hone]
      exact h.saved e hasked hexit
  · have hnone : succeededEdits [command] [o] = [] := by simp [succeededEdits, hexit]
    rw [hnone, h.untouched (.inl hexit)]
    exact h.loaded

/-- In memory the edit of a process that failed would have been refused, and changed nothing. -/
theorem Performs.runAll_edit (h : Performs files path s command o) :
    Edit.runAll (succeededEdits [command] [o]) s = Edit.runAll command.edit?.toList s := by
  by_cases hexit : o.exit = 0
  · have hown : succeededEdits [command] [o] = command.edit?.toList := by
      cases hedit : command.edit? <;> simp [succeededEdits, hexit, hedit]
    rw [hown]
  · have hnone : succeededEdits [command] [o] = [] := by simp [succeededEdits, hexit]
    rw [hnone]
    obtain ⟨-, message, -, hwhy⟩ := h.refused hexit
    rcases hwhy with ⟨hasked, -⟩ | ⟨e, fault, hasked, hfault, -⟩
    · rw [hasked]
      rfl
    · have heffect := e.effect_run s
      rw [hfault] at heffect
      rw [hasked]
      exact heffect.eq_of_error.symm

/-- What one process after another leaves is loaded as the list after the edits of those that
succeeded, and can be written again. -/
theorem load_worldAfter (hasked : List.Forall₂ (Asks w.sourcesPath path) lines commands)
    (hload : Sources.load w.files path = .ok start) (hwritable : Sources.Writable w.files path) :
    Sources.load (worldAfter w lines).files path =
        .ok (Edit.runAll (succeededEdits commands (runEach w lines)) start) ∧
      Edit.runAll (succeededEdits commands (runEach w lines)) start =
        Edit.runAll (commands.filterMap RepoCommand.edit?) start ∧
      Sources.Writable (worldAfter w lines).files path := by
  induction lines generalizing w start commands with
  | nil =>
    obtain rfl : commands = [] := by simpa using hasked
    exact ⟨hload, rfl, hwritable⟩
  | cons args lines ih =>
    obtain ⟨command, commands, hfirst, hrest, rfl⟩ := List.forall₂_cons_left_iff.mp hasked
    obtain ⟨hperforms, hnext⟩ := performs_run hfirst hload hwritable
    -- The next process finds the list that the first one left, and goes on from there.
    obtain ⟨hlast, hall, hend⟩ :=
      ih (w := { w with files := (run w args).files }) hrest hperforms.load_files hnext
    rw [runEach, succeededEdits_cons, Edit.runAll_append]
    refine ⟨hlast, ?_, hend⟩
    have hcommands : (command :: commands).filterMap RepoCommand.edit? =
        command.edit?.toList ++ commands.filterMap RepoCommand.edit? := by
      cases hedit : command.edit? <;> simp [hedit]
    rw [hall, hcommands, Edit.runAll_append, hperforms.runAll_edit]

/-- With a file that cannot be loaded every process fails and leaves it as it is. -/
theorem runEach_of_error {e : Sources.FileError}
    (hasked : List.Forall₂ (Asks w.sourcesPath path) lines commands)
    (hload : Sources.load w.files path = .error e) :
    (∀ o ∈ runEach w lines, o = failed w.files "" [] e.message) ∧
      (worldAfter w lines).files = w.files := by
  induction lines generalizing commands with
  | nil => exact ⟨nofun, rfl⟩
  | cons args lines ih =>
    obtain ⟨command, commands, hfirst, hrest, rfl⟩ := List.forall₂_cons_left_iff.mp hasked
    have hrun : run w args = failed w.files "" [] e.message := by rw [run_of_asks hfirst, hload]
    have hsame : { w with files := (run w args).files } = w := by rw [hrun]; rfl
    obtain ⟨hall, hfiles⟩ := ih hrest
    rw [runEach, worldAfter_cons, hsame]
    refine ⟨?_, hfiles⟩
    rintro o (_ | ⟨_, ho⟩)
    · exact hrun
    · exact hall o ho

/-- Commands on the source list, each run as a process of its own, do to the file what their edits
do to the list in memory. If the first process finds no list that can be loaded, all of them fail
and leave everything as it is. Otherwise the file holds in the end what the edits of the successful
ones make of the list that was found first, each process performs its command on the list that the
ones before it have come to, and what a failing process or one that only lists leaves is what it
found. -/
theorem repo_processes_refine_edits (w : World) (path : String) (lines : List (List String))
    (commands : List RepoCommand)
    (hasked : List.Forall₂ (Asks w.sourcesPath path) lines commands)
    (hwritable : Sources.Writable w.files path) :
    let outcomes := runEach w lines
    outcomes.length = commands.length ∧
    (∀ e, Sources.load w.files path = .error e →
      (∀ o ∈ outcomes, o = failed w.files "" [] e.message) ∧
        (worldAfter w lines).files = w.files) ∧
    ∀ start, Sources.load w.files path = .ok start →
      Sources.load (worldAfter w lines).files path =
        .ok (Edit.runAll (succeededEdits commands outcomes) start) ∧
      Edit.runAll (succeededEdits commands outcomes) start =
        Edit.runAll (commands.filterMap RepoCommand.edit?) start ∧
      ∀ i command o, commands[i]? = some command → outcomes[i]? = some o →
        o.files = (worldAfter w (lines.take (i + 1))).files ∧
        Performs (worldAfter w (lines.take i)).files path
          (Edit.runAll (succeededEdits (commands.take i) (outcomes.take i)) start) command o := by
  intro outcomes
  refine ⟨?_, fun e => runEach_of_error hasked, fun start hload => ?_⟩
  · rw [length_runEach, hasked.length_eq]
  · obtain ⟨hlast, hall, -⟩ := load_worldAfter hasked hload hwritable
    refine ⟨hlast, hall, fun i command o hcommand ho => ?_⟩
    rw [getElem?_runEach] at ho
    obtain ⟨args, hargs, rfl⟩ := Option.map_eq_some_iff.mp ho
    obtain ⟨hi, rfl⟩ := List.getElem?_eq_some_iff.mp hargs
    obtain ⟨hi', rfl⟩ := List.getElem?_eq_some_iff.mp hcommand
    have hfirst : Asks w.sourcesPath path lines[i] commands[i] := hasked.get hi hi'
    obtain ⟨hfound, -, hnext⟩ := load_worldAfter (List.forall₂_take i hasked) hload hwritable
    rw [worldAfter_take_succ w hargs, take_runEach]
    refine ⟨rfl, ?_⟩
    rw [← sourcesPath_worldAfter w (lines.take i)] at hfirst
    exact (performs_run hfirst hfound hnext).1

end Series

/-- The default address gives way to another one; a position that is not there and the last address
are asked for in vain. -/
theorem repo_processes_refine_edits_defaults :
    let w : World := ⟨.offline, .empty, "sources.yaml"⟩
    let lines : List (List String) := [["repo", "add", " https://a.test/m "],
      ["repo", "edit", "0", "https://b.test"], ["repo", "list"], ["repo", "remove", "1"],
      ["repo", "remove", "2"], ["repo", "remove", "1"], ["repo", "non-free", "on"]]
    let commands : List RepoCommand := [.add " https://a.test/m ", .edit 0 "https://b.test", .list,
      .remove 1, .remove 2, .remove 1, .nonFree true]
    List.Forall₂ (Asks w.sourcesPath "sources.yaml") lines commands ∧
      Sources.Writable w.files "sources.yaml" ∧
      (runEach w lines).length = 7 ∧
      Sources.load (worldAfter w lines).files "sources.yaml" = .ok ⟨["https://a.test/m"], true⟩ := by
  intro w lines commands
  have hask (args : List String) (command : RepoCommand)
      (h : parse? args = some (.run (settingsOf []) (.repo command))) :
      Asks w.sourcesPath "sources.yaml" args command := ⟨_, h, rfl⟩
  have hasked : List.Forall₂ (Asks w.sourcesPath "sources.yaml") lines commands := by
    refine .cons (hask _ _ ?_) (.cons (hask _ _ ?_) (.cons (hask _ _ ?_) (.cons (hask _ _ ?_)
      (.cons (hask _ _ ?_) (.cons (hask _ _ ?_) (.cons (hask _ _ ?_) .nil))))))
    all_goals decide +kernel
  have hwritable : Sources.Writable w.files "sources.yaml" :=
    ⟨Sources.default, Sources.save_empty Sources.default⟩
  obtain ⟨hlength, -, hrun⟩ :=
    repo_processes_refine_edits w "sources.yaml" lines commands hasked hwritable
  obtain ⟨hlast, hall, -⟩ := hrun Sources.default Sources.load_empty
  have hedits : Edit.runAll (commands.filterMap RepoCommand.edit?) Sources.default =
      ⟨["https://a.test/m"], true⟩ := by
    decide +kernel
  rw [hall, hedits] at hlast
  exact ⟨hasked, hwritable, hlength, hlast⟩

end ModuleCatalog.CommandLine
