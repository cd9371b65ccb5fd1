import ModuleCatalog.CommandLine.Run

/-!
Runs of the program one after another. Each is a process of its own: it is given its arguments and
finds the files as the one before it left them, and nothing else passes from one to the next.
-/
namespace ModuleCatalog.CommandLine

/-- Runs the program once for each list of arguments. -/
def runEach (w : World) : List (List String) → List Outcome
  | [] => []
  | args :: lines =>
    let outcome := run w args
    outcome :: runEach { w with files := outcome.files } lines

/-- What the program finds after it was run once for each list of arguments. -/
def worldAfter (w : World) (lines : List (List String)) : World :=
  lines.foldl (fun w args => { w with files := (run w args).files }) w

@[simp]
theorem worldAfter_nil (w : World) : worldAfter w [] = w := rfl

@[simp]
theorem worldAfter_cons (w : World) (args : List String) (lines : List (List String)) :
    worldAfter w (args :: lines) = worldAfter { w with files := (run w args).files } lines := rfl

theorem worldAfter_append (w : World) (before after : List (List String)) :
    worldAfter w (before ++ after) = worldAfter (worldAfter w before) after :=
  List.foldl_append

@[simp]
theorem sourcesPath_worldAfter (w : World) (lines : List (List String)) :
    (worldAfter w lines).sourcesPath = w.sourcesPath := by
  induction lines generalizing w with
  | nil => rfl
  | cons args lines ih => exact ih { w with files := (run w args).files }

/-- A further run finds what the ones before it have left. -/
theorem worldAfter_take_succ (w : World) {lines : List (List String)} {i : Nat}
    {args : List String} (h : lines[i]? = some args) :
    worldAfter w (lines.take (i + 1)) =
      { worldAfter w (lines.take i) with
        files := (run (worldAfter w (lines.take i)) args).files } := by
  rw [List.take_add_one, h, worldAfter_append]
  rfl

@[simp]
theorem length_runEach (w : World) (lines : List (List String)) :
    (runEach w lines).length = lines.length := by
  induction lines generalizing w with
  | nil => rfl
  | cons args lines ih => rw [runEach, List.length_cons, List.length_cons, ih]

theorem take_runEach (w : World) (lines : List (List String)) (n : Nat) :
    (runEach w lines).take n = runEach w (lines.take n) := by
  induction lines generalizing w n with
  | nil => rw [runEach, List.take_nil, List.take_nil, runEach]
  | cons args lines ih =>
    cases n with
    | zero => rfl
    | succ n => rw [List.take_succ_cons, runEach, runEach, List.take_succ_cons, ih]

theorem getElem?_runEach (w : World) (lines : List (List String)) (i : Nat) :
    (runEach w lines)[i]? = (lines[i]?).map (run (worldAfter w (lines.take i))) := by
  induction lines generalizing w i with
  | nil => rfl
  | cons args lines ih =>
    cases i with
    | zero => rfl
    | succ i =>
      rw [runEach, List.getElem?_cons_succ, ih]
      rfl

end ModuleCatalog.CommandLine
