import Mathlib.Data.List.Perm.Basic
import ClaimGrid.Proofs.Grid.Cells

/-!
# Turning and mirroring masks

Every turn and every mirror image of a mask is made of three moves, each of which undoes itself:
exchanging rows and columns, and reading the rows or the columns backwards. How the three pass each
other gives all laws between the transforms. Each transform carries every cell to a place of its
own, so that no cell is lost and none is made up.

A quarter turn can also be written cell by cell into blank rows, with indices that are found by
subtraction. No difference is negative then, no cell is written outside, and the turned mask
results.

## Main definitions

* `Mask.transpose`: rows and columns exchanged.
* `Mask.Transform`, `Mask.transformed`: the turns and mirror images as one family.
* `Mask.carry`: where a transform carries a cell.
* `Mask.turnLeftWritten?`, `Mask.turnRightWritten?`: quarter turns, cell by cell.

## Main results

* `Mask.cell_carry`, `Mask.carry_inverse`: a transform carries the cells one to one.
* `Mask.perm_setCells`, `Mask.count_transformed`: the set cells of the image.
* `Mask.rewritten?_eq`: a mask that is written cell by cell.
* `Mask.rectangle_symmetries`: the transforms are the symmetries of a rectangle.
-/

namespace ClaimGrid

namespace Mask

variable {m : Mask} {x y : Nat}

/-! ### Three moves -/

/-- The mask with its rows and columns exchanged. -/
def transpose (m : Mask) : Mask where
  rows := columnLists m.rows m.columns
  columns := m.rows.length
  rectangular := rectangular_columnLists m.rows m.columns
  columns_pos := m.rows_pos
  rows_pos := by simpa [length_columnLists] using m.columns_pos
  columns_lt := m.rows_lt
  rows_lt := by simpa [length_columnLists] using m.columns_lt

@[simp] theorem length_rows_transpose (m : Mask) : m.transpose.rows.length = m.columns :=
  length_columnLists _ _

@[simp] theorem length_rows_mirrorHorizontal (m : Mask) :
    m.mirrorHorizontal.rows.length = m.rows.length := List.length_map _

@[simp] theorem length_rows_mirrorVertical (m : Mask) :
    m.mirrorVertical.rows.length = m.rows.length := List.length_reverse

theorem cell_transpose (hx : x < m.rows.length) (hy : y < m.columns) :
    m.transpose.cell x y = m.cell y x := by
  have hrow : y < m.rows[x].length := (m.rectangular _ (List.getElem_mem hx)).symm ▸ hy
  rw [cell, cell, cellAt_eq_getElem hx hrow,
    cellAt_eq_getElem (by simpa using hy) (by simpa [transpose, columnLists] using hx)]
  simp [transpose, columnLists, hrow]

theorem cell_mirrorHorizontal (hx : x < m.columns) (hy : y < m.rows.length) :
    m.mirrorHorizontal.cell x y = m.cell (m.columns - 1 - x) y := by
  have hrow := m.rectangular _ (List.getElem_mem hy)
  rw [cell, cell, cellAt_eq_getElem hy (by omega),
    cellAt_eq_getElem (by simpa using hy) (by simpa [mirrorHorizontal, hrow] using hx)]
  simp [mirrorHorizontal, hrow]

theorem cell_mirrorVertical (hy : y < m.rows.length) :
    m.mirrorVertical.cell x y = m.cell x (m.rows.length - 1 - y) := by
  rw [cell, cellAt, mirrorVertical, List.getD_reverse y hy]
  rfl

@[simp] theorem transpose_transpose (m : Mask) : m.transpose.transpose = m := by
  refine ext_cell (length_rows_transpose m) (length_rows_transpose _) fun x hx y hy => ?_
  rw [length_rows_transpose] at hy
  have hx' : x < m.columns := (length_rows_transpose m) ▸ hx
  rw [cell_transpose hx hy, cell_transpose hy hx']

@[simp] theorem mirrorHorizontal_mirrorHorizontal (m : Mask) :
    m.mirrorHorizontal.mirrorHorizontal = m := by
  ext1
  simp [mirrorHorizontal]

@[simp] theorem mirrorVertical_mirrorVertical (m : Mask) :
    m.mirrorVertical.mirrorVertical = m := by
  ext1
  simp [mirrorVertical]

/-- The two mirror images can be taken in either order. -/
theorem mirrorHorizontal_mirrorVertical (m : Mask) :
    m.mirrorVertical.mirrorHorizontal = m.mirrorHorizontal.mirrorVertical := by
  ext1
  simp [mirrorHorizontal, mirrorVertical]

theorem transpose_mirrorVertical (m : Mask) :
    m.mirrorVertical.transpose = m.transpose.mirrorHorizontal := by
  ext1
  simp [transpose, mirrorVertical, mirrorHorizontal, columnLists]

theorem transpose_mirrorHorizontal (m : Mask) :
    m.mirrorHorizontal.transpose = m.transpose.mirrorVertical := by
  have h := transpose_mirrorVertical m.transpose
  rw [transpose_transpose] at h
  rw [← h, transpose_transpose]

theorem turnLeft_eq (m : Mask) : m.turnLeft = m.transpose.mirrorVertical := rfl

theorem turnRight_eq (m : Mask) : m.turnRight = m.transpose.mirrorHorizontal :=
  (ext rfl : m.turnRight = m.mirrorVertical.transpose).trans (transpose_mirrorVertical m)

theorem turnOver_eq (m : Mask) : m.turnOver = m.mirrorHorizontal.mirrorVertical := rfl

/-! ### Laws between the transforms -/

theorem turnRight_turnRight (m : Mask) : m.turnRight.turnRight = m.turnOver := by
  simp only [turnRight_eq, turnOver_eq, transpose_mirrorHorizontal, transpose_transpose,
    mirrorHorizontal_mirrorVertical]

theorem turnLeft_turnLeft (m : Mask) : m.turnLeft.turnLeft = m.turnOver := by
  simp only [turnLeft_eq, turnOver_eq, transpose_mirrorVertical, transpose_transpose]

theorem turnLeft_turnRight (m : Mask) : m.turnRight.turnLeft = m := by
  simp only [turnLeft_eq, turnRight_eq, transpose_mirrorHorizontal, transpose_transpose,
    mirrorVertical_mirrorVertical]

theorem turnRight_turnLeft (m : Mask) : m.turnLeft.turnRight = m := by
  simp only [turnLeft_eq, turnRight_eq, transpose_mirrorVertical, transpose_transpose,
    mirrorHorizontal_mirrorHorizontal]

theorem turnOver_turnOver (m : Mask) : m.turnOver.turnOver = m := by
  simp only [turnOver_eq, mirrorHorizontal_mirrorVertical, mirrorHorizontal_mirrorHorizontal,
    mirrorVertical_mirrorVertical]

theorem turnRight_turnOver (m : Mask) : m.turnOver.turnRight = m.turnLeft := by
  rw [← turnLeft_turnLeft, turnRight_turnLeft]

/-! ### The family of transforms -/

/-- A way of turning or mirroring a mask. -/
inductive Transform where
  | turnLeft
  | turnRight
  | turnOver
  | mirrorHorizontal
  | mirrorVertical
  deriving DecidableEq

/-- A mask after a transform. -/
def transformed (m : Mask) : Transform → Mask
  | .turnLeft => m.turnLeft
  | .turnRight => m.turnRight
  | .turnOver => m.turnOver
  | .mirrorHorizontal => m.mirrorHorizontal
  | .mirrorVertical => m.mirrorVertical

namespace Transform

/-- Whether the transform exchanges the sides of a mask. -/
def swapsSides : Transform → Bool
  | turnLeft | turnRight => true
  | turnOver | mirrorHorizontal | mirrorVertical => false

/-- The transform that leads back. -/
def inverse : Transform → Transform
  | turnLeft => turnRight
  | turnRight => turnLeft
  | turnOver => turnOver
  | mirrorHorizontal => mirrorHorizontal
  | mirrorVertical => mirrorVertical

end Transform

/-- The column and row to which a transform carries a cell. -/
def carry (m : Mask) : Transform → Nat × Nat → Nat × Nat
  | .turnLeft, (x, y) => (y, m.columns - 1 - x)
  | .turnRight, (x, y) => (m.rows.length - 1 - y, x)
  | .turnOver, (x, y) => (m.columns - 1 - x, m.rows.length - 1 - y)
  | .mirrorHorizontal, (x, y) => (m.columns - 1 - x, y)
  | .mirrorVertical, (x, y) => (x, m.rows.length - 1 - y)

variable {f : Transform} {p q : Nat × Nat}

/-- A place is in the mask. -/
def Holds (m : Mask) (p : Nat × Nat) : Prop := p.1 < m.columns ∧ p.2 < m.rows.length

theorem columns_transformed (m : Mask) (f : Transform) :
    (m.transformed f).columns = if f.swapsSides then m.rows.length else m.columns := by
  cases f <;> rfl

theorem length_rows_transformed (m : Mask) (f : Transform) :
    (m.transformed f).rows.length = if f.swapsSides then m.columns else m.rows.length := by
  cases f <;> simp [transformed, turnLeft, turnRight, turnOver, length_columnLists,
    Transform.swapsSides]

theorem transformed_inverse (m : Mask) (f : Transform) :
    (m.transformed f).transformed f.inverse = m := by
  cases f with
  | turnLeft => exact m.turnRight_turnLeft
  | turnRight => exact m.turnLeft_turnRight
  | turnOver => exact m.turnOver_turnOver
  | mirrorHorizontal => exact m.mirrorHorizontal_mirrorHorizontal
  | mirrorVertical => exact m.mirrorVertical_mirrorVertical

/-- A cell of the mask is carried to a cell of the image. -/
theorem holds_carry (f : Transform) (hp : m.Holds p) : (m.transformed f).Holds (m.carry f p) := by
  obtain ⟨hx, hy⟩ := hp
  rw [Holds, columns_transformed, length_rows_transformed]
  cases f <;> simp only [carry, Transform.swapsSides, if_true, if_false, Bool.false_eq_true] <;>
    omega

/-- A cell that is carried by a transform and then by its inverse returns to its place. -/
theorem carry_inverse (f : Transform) (hp : m.Holds p) :
    (m.transformed f).carry f.inverse (m.carry f p) = p := by
  obtain ⟨hx, hy⟩ := hp
  have hcolumns := columns_transformed m f
  have hrows := length_rows_transformed m f
  refine Prod.ext ?_ ?_ <;> cases f <;>
    simp only [carry, Transform.inverse, hcolumns, hrows, Transform.swapsSides, if_true, if_false,
      Bool.false_eq_true] <;> omega

/-- The image has the cell of the mask at the place to which it is carried. -/
theorem cell_carry (f : Transform) (hp : m.Holds p) :
    (m.transformed f).cell (m.carry f p).1 (m.carry f p).2 = m.cell p.1 p.2 := by
  obtain ⟨x, y⟩ := p
  obtain ⟨hx, hy⟩ : x < m.columns ∧ y < m.rows.length := hp
  have hx' : m.columns - 1 - (m.columns - 1 - x) = x := by omega
  have hy' : m.rows.length - 1 - (m.rows.length - 1 - y) = y := by omega
  have hlast : m.columns - 1 - x < m.columns := by omega
  have hbottom : m.rows.length - 1 - y < m.rows.length := by omega
  cases f with
  | turnLeft =>
    calc m.turnLeft.cell y (m.columns - 1 - x)
        = m.transpose.cell y x := by
          rw [turnLeft_eq, cell_mirrorVertical (by simpa using hlast), length_rows_transpose, hx']
      _ = m.cell x y := cell_transpose hy hx
  | turnRight =>
    calc m.turnRight.cell (m.rows.length - 1 - y) x
        = m.transpose.cell (m.rows.length - 1 - (m.rows.length - 1 - y)) x := by
          rw [turnRight_eq, cell_mirrorHorizontal hbottom (by simpa using hx)]
          rfl
      _ = m.cell x y := by rw [hy', cell_transpose hy hx]
  | turnOver =>
    calc m.turnOver.cell (m.columns - 1 - x) (m.rows.length - 1 - y)
        = m.mirrorHorizontal.cell (m.columns - 1 - x) y := by
          rw [turnOver_eq, cell_mirrorVertical (by simpa using hbottom),
            length_rows_mirrorHorizontal, hy']
      _ = m.cell x y := by rw [cell_mirrorHorizontal hlast hy, hx']
  | mirrorHorizontal => exact (cell_mirrorHorizontal hlast hy).trans (congrArg (m.cell · y) hx')
  | mirrorVertical => exact (cell_mirrorVertical hbottom).trans (congrArg (m.cell x) hy')

/-- Every cell of the image is carried there from a cell of the mask. -/
theorem exists_carry_eq (hq : (m.transformed f).Holds q) : ∃ p, m.Holds p ∧ m.carry f p = q := by
  have hp := holds_carry f.inverse hq
  have hback := carry_inverse f.inverse hq
  have hf : f.inverse.inverse = f := by cases f <;> rfl
  rw [transformed_inverse] at hp hback
  rw [hf] at hback
  exact ⟨_, hp, hback⟩

/-- The set cells of the image are those of the mask, each carried to its place. -/
theorem perm_setCells (m : Mask) (f : Transform) :
    (m.transformed f).setCells.Perm (m.setCells.map (m.carry f)) := by
  have hholds {p : Nat × Nat} (hp : p ∈ m.setCells) : m.Holds p :=
    lt_of_cell_ne_zero (mem_setCells.1 hp)
  have hnodup : (m.setCells.map (m.carry f)).Nodup := by
    refine List.Nodup.map_on (fun p hp q hq h => ?_) m.nodup_setCells
    rw [← carry_inverse f (hholds hp), h, carry_inverse f (hholds hq)]
  refine (List.perm_ext_iff_of_nodup (nodup_setCells _) hnodup).2 fun q => ?_
  rw [List.mem_map]
  constructor
  · intro hq
    rw [mem_setCells] at hq
    obtain ⟨p, hp, rfl⟩ := exists_carry_eq (lt_of_cell_ne_zero hq)
    rw [cell_carry f hp] at hq
    exact ⟨p, mem_setCells.2 hq, rfl⟩
  · rintro ⟨p, hp, rfl⟩
    rw [mem_setCells, cell_carry f (hholds hp)]
    exact mem_setCells.1 hp

theorem count_transformed (m : Mask) (f : Transform) : (m.transformed f).count = m.count := by
  rw [← length_setCells, (perm_setCells m f).length_eq, List.length_map, length_setCells]

/-! ### Quarter turns, cell by cell -/

/-- The difference, if it is not negative. -/
def minus? (a b : Nat) : Option Nat := if b ≤ a then some (a - b) else none

/-- Rows with one cell overwritten, if there is a cell at that place. -/
def write? (rows : List (List UInt8)) (x y : Nat) (c : UInt8) : Option (List (List UInt8)) := do
  let row ← rows[y]?
  if x < row.length then some (rows.set y (row.set x c)) else none

/-- Blank rows with exchanged sides, into which every cell of the mask is written at the column and
row that are found for it. -/
def rewritten? (m : Mask) (place? : Nat → Nat → Option (Nat × Nat)) :
    Option (List (List UInt8)) :=
  m.rows.zipIdx.foldlM (fun written (row, y) =>
    row.zipIdx.foldlM (fun written (c, x) => do
      let p ← place? x y
      write? written p.1 p.2 c) written)
    (List.replicate m.columns (List.replicate m.rows.length 0))

/-- The rows of the mask turned to the left, cell by cell. -/
def turnLeftWritten? (m : Mask) : Option (List (List UInt8)) :=
  m.rewritten? fun x y => do
    let last ← minus? m.columns 1
    let row ← minus? last x
    return (y, row)

/-- The rows of the mask turned to the right, cell by cell. -/
def turnRightWritten? (m : Mask) : Option (List (List UInt8)) :=
  m.rewritten? fun x y => do
    let last ← minus? m.rows.length 1
    let column ← minus? last y
    return (column, x)

/-- Rows of the size of a mask. -/
def IsDraft (m : Mask) (rows : List (List UInt8)) : Prop :=
  Rectangular rows m.columns ∧ rows.length = m.rows.length

/-- A step turns every draft of a mask into another one, in which the cells at some places are those
of the mask, and so are those that were before. -/
def Fills (m : Mask) (places : Nat × Nat → Prop)
    (step : List (List UInt8) → Option (List (List UInt8))) : Prop :=
  ∀ rows, m.IsDraft rows → ∃ rows', step rows = some rows' ∧ m.IsDraft rows' ∧
    ∀ p, places p ∨ cellAt rows p.1 p.2 = m.cell p.1 p.2 → cellAt rows' p.1 p.2 = m.cell p.1 p.2

theorem cellAt_set {rows : List (List UInt8)} (hy : y < rows.length) (hx : x < rows[y].length)
    (c : UInt8) (p : Nat × Nat) : cellAt (rows.set y (rows[y].set x c)) p.1 p.2 =
      if p = (x, y) then c else cellAt rows p.1 p.2 := by
  obtain ⟨x', y'⟩ := p
  simp only [cellAt, List.getD_eq_getElem?_getD, List.getElem?_set, Prod.mk.injEq]
  by_cases hy' : y = y'
  · subst hy'
    by_cases hx' : x = x'
    · subst hx'
      simp [hy, hx]
    · simp [hy, Ne.symm hx', List.getElem?_set_ne hx']
  · simp [hy', Ne.symm hy']

theorem fills_write? (hx : x < m.columns) (hy : y < m.rows.length) :
    m.Fills (· = (x, y)) fun rows => write? rows x y (m.cell x y) := by
  rintro rows ⟨hrect, hlength⟩
  have hyr : y < rows.length := hlength.symm ▸ hy
  have hrow : rows[y].length = m.columns := hrect _ (List.getElem_mem hyr)
  refine ⟨rows.set y (rows[y].set x (m.cell x y)), ?_, ⟨?_, by simpa using hlength⟩, ?_⟩
  · simp only [write?, List.getElem?_eq_getElem hyr, Option.bind_eq_bind, Option.bind_some,
      if_pos (hrow.symm ▸ hx : x < rows[y].length)]
  · intro row hmem
    rcases List.mem_or_eq_of_mem_set hmem with hmem | rfl
    · exact hrect row hmem
    · rw [List.length_set, hrow]
  · intro p hp
    rw [cellAt_set hyr (hrow.symm ▸ hx)]
    split
    · rename_i heq
      rw [heq]
    · rename_i hne
      exact hp.resolve_left hne

/-- A loop whose every step fills some places fills all of them. -/
theorem Fills.foldlM {ι : Type} {l : List ι} {places : ι → Nat × Nat → Prop}
    {step : List (List UInt8) → ι → Option (List (List UInt8))}
    (h : ∀ i ∈ l, m.Fills (places i) (step · i)) :
    m.Fills (fun p => ∃ i ∈ l, places i p) fun rows => l.foldlM step rows := by
  intro rows hrows
  dsimp only
  induction l generalizing rows with
  | nil => exact ⟨rows, rfl, hrows, fun p hp => hp.resolve_left fun ⟨_, hi, _⟩ => by cases hi⟩
  | cons i l ih =>
    obtain ⟨rows', hstep, hdraft, hright⟩ := h i List.mem_cons_self rows hrows
    obtain ⟨rows'', hloop, hdraft', hright'⟩ :=
      ih (fun j hj => h j (List.mem_cons_of_mem i hj)) rows' hdraft
    refine ⟨rows'', ?_, hdraft', fun p hp => hright' p ?_⟩
    · rw [List.foldlM_cons]
      exact (congrArg (· >>= fun rows => l.foldlM step rows) hstep).trans hloop
    · rcases hp with ⟨j, hj, hp⟩ | hp
      · rcases List.mem_cons.1 hj with rfl | hj
        · exact .inr (hright p (.inl hp))
        · exact .inl ⟨j, hj, hp⟩
      · exact .inr (hright p (.inr hp))

/-- A cell of a row of the mask that is found by listing rows and cells with their numbers. -/
theorem cell_of_mem_zipIdx {row : List UInt8} {c : UInt8} (hrow : (row, y) ∈ m.rows.zipIdx)
    (hc : (c, x) ∈ row.zipIdx) : m.Holds (x, y) ∧ m.cell x y = c := by
  rw [List.mk_mem_zipIdx_iff_getElem?] at hrow hc
  obtain ⟨hy, rfl⟩ := List.getElem?_eq_some_iff.1 hrow
  obtain ⟨hx, rfl⟩ := List.getElem?_eq_some_iff.1 hc
  exact ⟨⟨m.rectangular _ (List.getElem_mem hy) ▸ hx, hy⟩, cellAt_eq_getElem hy hx⟩

theorem exists_mem_zipIdx (h : m.Holds p) :
    ∃ row c, (row, p.2) ∈ m.rows.zipIdx ∧ (c, p.1) ∈ row.zipIdx := by
  obtain ⟨hx, hy⟩ := h
  have hrow := m.rectangular _ (List.getElem_mem hy)
  refine ⟨m.rows[p.2], (m.rows[p.2])[p.1], ?_, ?_⟩ <;>
    rw [List.mk_mem_zipIdx_iff_getElem?, List.getElem?_eq_getElem]

/-- A mask whose cells are written where a transform carries them becomes the image. No write misses
the rows, and none of their cells stays blank. -/
theorem rewritten?_eq {place? : Nat → Nat → Option (Nat × Nat)} (hswaps : f.swapsSides = true)
    (hplace : ∀ p, m.Holds p → place? p.1 p.2 = some (m.carry f p)) :
    m.rewritten? place? = some (m.transformed f).rows := by
  have hcolumns : (m.transformed f).columns = m.rows.length := by
    rw [columns_transformed, if_pos hswaps]
  have hlength : (m.transformed f).rows.length = m.columns := by
    rw [length_rows_transformed, if_pos hswaps]
  have hblank : (m.transformed f).IsDraft
      (List.replicate m.columns (List.replicate m.rows.length 0)) := by
    refine ⟨fun row hrow => ?_, by rw [List.length_replicate, hlength]⟩
    rw [List.eq_of_mem_replicate hrow, List.length_replicate, hcolumns]
  have hstep {row : List UInt8} {y : Nat} (hrow : (row, y) ∈ m.rows.zipIdx) {c : UInt8} {x : Nat}
      (hc : (c, x) ∈ row.zipIdx) : (m.transformed f).Fills (· = m.carry f (x, y)) fun rows =>
        place? x y >>= fun p => write? rows p.1 p.2 c := by
    obtain ⟨hp, rfl⟩ := cell_of_mem_zipIdx hrow hc
    have hfills := fills_write? (holds_carry f hp).1 (holds_carry f hp).2
    rw [cell_carry f hp] at hfills
    simpa only [hplace (x, y) hp, Option.bind_eq_bind, Option.bind_some] using hfills
  have hfills : (m.transformed f).Fills
      (fun p => ∃ i ∈ m.rows.zipIdx, ∃ j ∈ i.1.zipIdx, p = m.carry f (j.2, i.2)) _ :=
    Fills.foldlM fun _ hrow => Fills.foldlM fun _ hc => hstep hrow hc
  obtain ⟨rows, hrows, hdraft, hright⟩ := hfills _ hblank
  refine Eq.trans hrows (congrArg some
    (rows_ext hdraft.1 (m.transformed f).rectangular hdraft.2 fun x hx y hy => ?_))
  obtain ⟨p, hp, hcarry⟩ := exists_carry_eq (f := f) (q := (x, y)) ⟨hx, hdraft.2 ▸ hy⟩
  obtain ⟨row, c, hrow, hc⟩ := exists_mem_zipIdx hp
  exact hright (x, y) (.inl ⟨_, hrow, _, hc, hcarry.symm⟩)

theorem turnLeftWritten?_eq (m : Mask) : m.turnLeftWritten? = some m.turnLeft.rows := by
  refine rewritten?_eq (f := .turnLeft) rfl fun p hp => ?_
  have hlast : 1 ≤ m.columns := m.columns_pos
  have hx : p.1 ≤ m.columns - 1 := Nat.le_sub_one_of_lt hp.1
  simp only [minus?, if_pos hlast, if_pos hx, Option.bind_eq_bind, Option.bind_some]
  rfl

theorem turnRightWritten?_eq (m : Mask) : m.turnRightWritten? = some m.turnRight.rows := by
  refine rewritten?_eq (f := .turnRight) rfl fun p hp => ?_
  have hlast : 1 ≤ m.rows.length := m.rows_pos
  have hy : p.2 ≤ m.rows.length - 1 := Nat.le_sub_one_of_lt hp.2
  simp only [minus?, if_pos hlast, if_pos hy, Option.bind_eq_bind, Option.bind_some]
  rfl

/-- The turns and mirror images of a mask are its images under the symmetries of a rectangle. Every
transform makes a mask of it again, with the sides exchanged or not, in which every cell stands
where it was carried, so that as many are set; a quarter turn that is written cell by cell never
misses the rows; and the transforms compose like the symmetries of a rectangle do. -/
theorem rectangle_symmetries (m : Mask) :
    (∀ f, make (m.transformed f).rows = .ok (m.transformed f) ∧
      (m.transformed f).count = m.count ∧
      (m.transformed f).width = (if f.swapsSides then m.height else m.width) ∧
      (m.transformed f).height = (if f.swapsSides then m.width else m.height) ∧
      ∀ p, m.Holds p →
        (m.transformed f).cell (m.carry f p).1 (m.carry f p).2 = m.cell p.1 p.2) ∧
    m.turnLeftWritten? = some m.turnLeft.rows ∧ m.turnRightWritten? = some m.turnRight.rows ∧
    m.turnRight.turnRight.turnRight.turnRight = m ∧ m.turnRight.turnLeft = m ∧
    m.turnOver.turnOver = m ∧ m.mirrorHorizontal.mirrorHorizontal = m ∧
    m.mirrorVertical.mirrorVertical = m ∧ m.turnRight.turnRight = m.turnOver ∧
    m.turnLeft.turnLeft = m.turnOver ∧ m.mirrorHorizontal.mirrorVertical = m.turnOver ∧
    m.mirrorVertical.mirrorHorizontal = m.turnOver ∧
    m.mirrorHorizontal.turnRight = m.turnLeft.mirrorHorizontal := by
  refine ⟨fun f => ⟨make_rows _, count_transformed m f, ?_, ?_, fun p => cell_carry f⟩,
    m.turnLeftWritten?_eq, m.turnRightWritten?_eq, ?_, m.turnLeft_turnRight, m.turnOver_turnOver,
    m.mirrorHorizontal_mirrorHorizontal, m.mirrorVertical_mirrorVertical, m.turnRight_turnRight,
    m.turnLeft_turnLeft, rfl, m.mirrorHorizontal_mirrorVertical, ?_⟩
  · rw [width, columns_transformed, apply_ite UInt8.ofNat]
    rfl
  · rw [height, length_rows_transformed, apply_ite UInt8.ofNat]
    rfl
  · rw [turnRight_turnRight, turnRight_turnRight, turnOver_turnOver]
  · rw [turnRight_eq, turnLeft_eq, transpose_mirrorHorizontal]

end Mask

end ClaimGrid
