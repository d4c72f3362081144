import Mathlib.Algebra.BigOperators.Group.List.Basic
import Mathlib.Data.List.GetD
import Mathlib.Data.List.Nodup
import ClaimGrid.Grid.Mask

/-!
# The cells of a mask

A mask is known by its sides and by the cell in each column and row. Its set cells, listed row by
row, say all that counts for a stamp.

## Main definitions

* `Mask.cellAt`, `Mask.cell`: the cell in a column and a row.
* `Mask.setCells`: the columns and rows of the set cells, row by row.
* `Mask.ReadsBefore`: the order in which cells are read.

## Main results

* `Mask.rows_ext`, `Mask.ext_cell`: equal sides and equal cells make equal masks.
* `Mask.mem_setCells`, `Mask.pairwise_setCells`: what is listed, and in which order.
* `Mask.length_setCells`: as many cells are listed as are counted.
-/

namespace ClaimGrid

namespace Mask

/-- The cell in column `x` and row `y`, which is not set where there is none. -/
def cellAt (rows : List (List UInt8)) (x y : Nat) : UInt8 := (rows.getD y []).getD x 0

/-- The cell of a mask in column `x` and row `y`, which is not set outside of the mask. -/
def cell (m : Mask) (x y : Nat) : UInt8 := cellAt m.rows x y

/-- The columns and rows of the set cells, row by row. -/
def setCells (m : Mask) : List (Nat × Nat) :=
  m.rows.zipIdx.flatMap fun (row, y) =>
    row.zipIdx.filterMap fun (cell, x) => if cell = 0 then none else some (x, y)

/-- The first place stands in an earlier row than the second, or in the same row further left. -/
def ReadsBefore (p q : Nat × Nat) : Prop := p.2 < q.2 ∨ p.2 = q.2 ∧ p.1 < q.1

variable {m m' : Mask} {rows rows' : List (List UInt8)} {width x y : Nat}

instance : DecidableEq Mask := fun _ _ => decidable_of_iff _ Mask.ext_iff.symm

/-! ### One cell -/

theorem cellAt_eq_getElem (hy : y < rows.length) (hx : x < rows[y].length) :
    cellAt rows x y = rows[y][x] := by
  rw [cellAt, List.getD_eq_getElem _ _ hy, List.getD_eq_getElem _ _ hx]

/-- Two rectangles of rows are equal if their cells are. -/
theorem rows_ext (h : Rectangular rows width) (h' : Rectangular rows' width)
    (hlength : rows.length = rows'.length)
    (hcell : ∀ x < width, ∀ y < rows.length, cellAt rows x y = cellAt rows' x y) :
    rows = rows' := by
  refine List.ext_getElem hlength fun y hy hy' => ?_
  have hrow := h _ (List.getElem_mem hy)
  have hrow' := h' _ (List.getElem_mem hy')
  refine List.ext_getElem (hrow.trans hrow'.symm) fun x hx hx' => ?_
  rw [← cellAt_eq_getElem hy hx, ← cellAt_eq_getElem hy' hx']
  exact hcell x (hrow ▸ hx) y hy

theorem ext_cell (hcolumns : m.columns = m'.columns) (hrows : m.rows.length = m'.rows.length)
    (hcell : ∀ x < m.columns, ∀ y < m.rows.length, m.cell x y = m'.cell x y) : m = m' :=
  ext (rows_ext m.rectangular (hcolumns ▸ m'.rectangular) hrows hcell)

/-- A set cell lies in the mask. -/
theorem lt_of_cell_ne_zero (h : m.cell x y ≠ 0) : x < m.columns ∧ y < m.rows.length := by
  have hy : y < m.rows.length := by
    by_contra hy
    rw [cell, cellAt, List.getD_eq_default _ _ (Nat.le_of_not_lt hy)] at h
    exact h rfl
  have hrow := m.rectangular _ (List.getElem_mem hy)
  refine ⟨?_, hy⟩
  by_contra hx
  rw [cell, cellAt, List.getD_eq_getElem _ _ hy,
    List.getD_eq_default _ _ (hrow ▸ Nat.le_of_not_lt hx)] at h
  exact h rfl

/-! ### The set cells -/

/-- Exactly the set cells are listed. -/
theorem mem_setCells {p : Nat × Nat} : p ∈ m.setCells ↔ m.cell p.1 p.2 ≠ 0 := by
  constructor
  · intro hp
    obtain ⟨⟨row, y⟩, hrow, hp⟩ := List.mem_flatMap.1 hp
    obtain ⟨⟨c, x⟩, hc, hset⟩ := List.mem_filterMap.1 hp
    rw [List.mk_mem_zipIdx_iff_getElem?] at hrow hc
    simp only [Option.ite_none_left_eq_some, Option.some.injEq] at hset
    obtain ⟨hset, rfl⟩ := hset
    simpa [cell, cellAt, hrow, hc] using hset
  · intro hset
    obtain ⟨hx, hy⟩ := lt_of_cell_ne_zero hset
    have hrow := m.rectangular _ (List.getElem_mem hy)
    have hxrow : p.1 < (m.rows[p.2]).length := hrow.symm ▸ hx
    rw [cell, cellAt_eq_getElem hy hxrow] at hset
    refine List.mem_flatMap.2 ⟨(m.rows[p.2], p.2), ?_, List.mem_filterMap.2
      ⟨((m.rows[p.2])[p.1], p.1), ?_, if_neg hset⟩⟩
    · rw [List.mk_mem_zipIdx_iff_getElem?, List.getElem?_eq_getElem hy]
    · rw [List.mk_mem_zipIdx_iff_getElem?, List.getElem?_eq_getElem hxrow]

private theorem pairwise_zipIdx {β : Type} (l : List β) :
    l.zipIdx.Pairwise fun p q => p.2 < q.2 := by
  refine List.pairwise_map.1 ?_
  rw [List.zipIdx_map_snd]
  exact List.pairwise_lt_range' 1

/-- The set cells are listed in reading order. -/
theorem pairwise_setCells (m : Mask) : m.setCells.Pairwise ReadsBefore := by
  refine List.pairwise_flatMap.2 ⟨fun row _ => ?_, ?_⟩
  · refine List.pairwise_filterMap.2 ((pairwise_zipIdx row.1).imp fun hlt p hp q hq => ?_)
    simp only [Option.ite_none_left_eq_some, Option.some.injEq] at hp hq
    rw [← hp.2, ← hq.2]
    exact .inr ⟨rfl, hlt⟩
  · refine (pairwise_zipIdx m.rows).imp fun {row row'} hlt p hp q hq => ?_
    obtain ⟨_, -, hp⟩ := List.mem_filterMap.1 hp
    obtain ⟨_, -, hq⟩ := List.mem_filterMap.1 hq
    simp only [Option.ite_none_left_eq_some, Option.some.injEq] at hp hq
    rw [← hp.2, ← hq.2]
    exact .inl hlt

/-- No cell is listed twice. -/
theorem nodup_setCells (m : Mask) : m.setCells.Nodup :=
  m.pairwise_setCells.imp fun h => by
    rintro rfl
    exact h.elim (Nat.lt_irrefl _) fun h => Nat.lt_irrefl _ h.2

/-- As many cells are listed as are counted. -/
theorem length_setCells (m : Mask) : m.setCells.length = m.count := by
  have hrow (row : List UInt8) (y : Nat) : (row.zipIdx.filterMap fun (cell, x) =>
      if cell = 0 then none else some (x, y)).length = row.countP (· ≠ 0) := by
    rw [List.length_filterMap_eq_countP]
    conv_rhs => rw [← List.zipIdx_map_fst 0 row, List.countP_map]
    refine List.countP_congr fun p _ => ?_
    by_cases hp : p.1 = 0 <;> simp [hp]
  calc m.setCells.length
      = (m.rows.zipIdx.map fun p => p.1.countP (· ≠ 0)).sum := by
        rw [setCells, List.length_flatMap]
        exact congrArg List.sum (List.map_congr_left fun p _ => hrow p.1 p.2)
    _ = (m.rows.map fun row => row.countP (· ≠ 0)).sum := by
        conv_rhs => rw [← List.zipIdx_map_fst 0 m.rows, List.map_map]
        rfl
    _ = m.count := by rw [List.sum_eq_foldl, List.foldl_map, count]

end Mask

end ClaimGrid
