import ModuleCatalog.Proofs.PathNames
import ModuleCatalog.Proofs.RepoCommands

/-!
What a table prints. A row whose cells take one line each stands in the text as a line of its own:
the cells in their order, each between bars and filled up with spaces. So the list of sources shows
what is at a position to whoever reads the text.
-/
namespace ModuleCatalog

namespace Table

variable {row : List String} {rows : List (List String)}

/-- Says that a line shows cells: each after a space and before some spaces and a bar. -/
inductive ShowsCells : List String → List Char → Prop where
  | nil : ShowsCells [] []
  | cons {cells : List String} {line : List Char} (cell : String) (free : Nat)
    (rest : ShowsCells cells line) :
    ShowsCells (cell :: cells) (' ' :: cell.toList ++ spaces free ++ ' ' :: '│' :: line)

/-- A row in which no cell has a line feed takes one line. -/
theorem rowLines_of_oneLine (h : ∀ cell ∈ row, '\n' ∉ cell.toList) (alignment : Alignment)
    (widths : List Nat) :
    rowLines alignment widths row = ['│' :: (widths.zip row).flatMap fun (width, cell) =>
      ' ' :: padded alignment width cell.toList ++ [' ', '│']] := by
  have hcells : row.map cellLines = row.map fun cell => [cell.toList] :=
    List.map_congr_left fun cell hcell => Text.splitAtEach_of_not_mem (h cell hcell)
  have hheight (cells : List String) :
      ((cells.map fun cell => [cell.toList]).map List.length).foldl max 1 = 1 := by
    induction cells with
    | nil => rfl
    | cons cell cells ih => exact ih
  simp only [rowLines, hcells, hheight, List.range_one, List.map_cons, List.map_nil,
    List.zip_map_right, List.flatMap_map]
  rfl

theorem showsCells_zip {widths : List Nat} (h : row.length ≤ widths.length) :
    ShowsCells row ((widths.zip row).flatMap fun (width, cell) =>
      ' ' :: padded .left width cell.toList ++ [' ', '│']) := by
  induction row generalizing widths with
  | nil =>
    rw [List.zip_nil_right]
    exact .nil
  | cons cell row ih =>
    cases widths with
    | nil => simp at h
    | cons width widths =>
      rw [List.zip_cons_cons, List.flatMap_cons]
      simpa [padded] using ShowsCells.cons cell _ (ih (by simpa using h))

/-- There is a column for every cell. -/
theorem length_le_columnWidths (h : row ∈ rows) : row.length ≤ (columnWidths rows).length := by
  let widen (widths : List Nat) (row : List String) : List Nat :=
    (List.range (max widths.length (row.map cellWidth).length)).map fun i =>
      max (widths.getD i 0) ((row.map cellWidth).getD i 0)
  have hlength (widths : List Nat) (row : List String) :
      (widen widths row).length = max widths.length row.length := by
    simp [widen]
  have hgrows (rows : List (List String)) (widths : List Nat) :
      widths.length ≤ (rows.foldl widen widths).length := by
    induction rows generalizing widths with
    | nil => exact Nat.le_refl _
    | cons other rows ih =>
      refine Nat.le_trans ?_ (ih (widen widths other))
      rw [hlength]
      exact Nat.le_max_left _ _
  change row.length ≤ (rows.foldl widen []).length
  generalize [] = widths
  induction rows generalizing widths with
  | nil => cases h
  | cons other rows ih =>
    rcases List.mem_cons.mp h with rfl | hrow
    · refine Nat.le_trans ?_ (hgrows rows (widen widths row))
      rw [hlength]
      exact Nat.le_max_right _ _
    · exact ih hrow (widen widths other)

theorem infix_flatten_intersperse {α : Type*} {line : List α} {lines : List (List α)}
    (h : line ∈ lines) (gap : List α) : line <:+: (lines.intersperse gap).flatten := by
  induction lines with
  | nil => cases h
  | cons first lines ih =>
    cases lines with
    | nil =>
      obtain rfl := List.mem_singleton.mp h
      simp
    | cons second lines =>
      rw [List.intersperse_cons_cons, List.flatten_cons, List.flatten_cons]
      rcases List.mem_cons.mp h with rfl | hrest
      · exact (List.prefix_append _ _).isInfix
      · exact ((ih hrest).trans (List.suffix_append _ _).isInfix).trans
          (List.suffix_append _ _).isInfix

/-- Every row whose cells take one line each stands in the text of the table as a line. -/
theorem exists_line_render (alignment : Alignment) (header : List String) (hrow : row ∈ rows)
    (hcells : ∀ cell ∈ row, '\n' ∉ cell.toList) :
    ∃ line, ShowsCells row line ∧ '│' :: line <:+: (render alignment header rows).toList := by
  have hshown := showsCells_zip (length_le_columnWidths (List.mem_cons_of_mem header hrow))
  refine ⟨_, hshown, ?_⟩
  rw [render, String.toList_ofList]
  apply infix_flatten_intersperse
  have hline := rowLines_of_oneLine hcells .left (columnWidths (header :: rows))
  have hmem : _ ∈ rowLines .left (columnWidths (header :: rows)) row :=
    hline ▸ List.mem_singleton_self _
  exact List.mem_append_left _ (List.mem_append_right _ (List.mem_cons_of_mem _
    (List.mem_flatMap.mpr ⟨row, hrow, hmem⟩)))

end Table

namespace CommandLine

open Table (spaces)

/-- What the list shows at a position stands next to the position in a line of what is printed. -/
theorem ShowsAt.infix_listOf {s : Sources} {position : Nat} {url : String} (h : ShowsAt s position url)
    (hurl : '\n' ∉ url.toList) :
    ∃ free free', '│' :: ' ' :: (toString position).toList ++ spaces free ++ [' ', '│', ' '] ++
      url.toList ++ spaces free' ++ [' ', '│'] <:+: (listOf s).toList := by
  have hrow : [toString position, url] ∈ sourceRows s := ((h _).mpr rfl).1
  have hcells : ∀ cell ∈ [toString position, url], '\n' ∉ cell.toList := by
    rintro cell (- | ⟨-, - | ⟨-, ⟨⟩⟩⟩)
    · exact not_mem_toString (by decide) position
    · exact hurl
  obtain ⟨line, hshows, hline⟩ := Table.exists_line_render .left ["#", "URL"] hrow hcells
  cases hshows with
  | cons cell free rest =>
  cases rest with
  | cons cell free' rest =>
  cases rest
  refine ⟨free, free', ?_⟩
  rw [listOf, String.toList_append]
  refine List.IsInfix.trans ?_ (List.prefix_append _ _).isInfix
  simpa using hline

end CommandLine

end ModuleCatalog
