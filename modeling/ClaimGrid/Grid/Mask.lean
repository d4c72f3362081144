import ClaimGrid.Grid.Location

/-!
# Masks

A mask is a rectangular pattern of cells that can be turned, mirrored and stamped onto the grid. A
cell is set when it is not zero; its value is kept through every turn.

## Main definitions

* `Mask`: equally long rows of cells, at most 255 a side.
* `Mask.make`: the checked constructor.
* `Mask.turnLeft`, `Mask.turnRight`, `Mask.turnOver`: the turns.
* `Mask.mirrorHorizontal`, `Mask.mirrorVertical`: the mirror images.
* `Mask.location`: the dots covered by the set cells of a mask at a corner.

## Main results

* `Mask.width_turnRight`, `Mask.height_turnRight`: a quarter turn exchanges the sides.
* `Mask.make_rows`, `Mask.make_eq_ok_iff`: the constructor accepts exactly the rows of masks.
-/

namespace ClaimGrid

/-- Rows of cells that form a rectangle. -/
def Mask.Rectangular (rows : List (List UInt8)) (width : Nat) : Prop :=
  ∀ row ∈ rows, row.length = width

/-- A rectangular pattern of cells, between 1 and 255 cells a side. -/
structure Mask where
  /-- The rows, top to bottom. -/
  rows : List (List UInt8)
  /-- The number of columns. -/
  columns : Nat
  /-- Every row has a cell in every column. -/
  rectangular : Mask.Rectangular rows columns
  /-- There is a column. -/
  columns_pos : 0 < columns
  /-- There is a row. -/
  rows_pos : 0 < rows.length
  /-- The columns can be counted in 8 bits. -/
  columns_lt : columns < 256
  /-- The rows can be counted in 8 bits. -/
  rows_lt : rows.length < 256

namespace Mask

instance (rows : List (List UInt8)) (width : Nat) : Decidable (Rectangular rows width) := by
  unfold Rectangular; infer_instance

/-- Why rows of cells form no mask. -/
def refusal (columns rows : Nat) : String :=
  "mask " ++ Decimal.numeral columns ++ "x" ++ Decimal.numeral rows ++
    " exceeds 255 cells per side"

/-- A mask, refused unless the rows form a rectangle of between 1 and 255 cells a side. -/
def make (rows : List (List UInt8)) : Except GridError Mask :=
  match hrows : rows with
  | [] => .error (.invalidMask "mask has no rows")
  | first :: _ =>
    if hcol : first.length = 0 then .error (.invalidMask "mask has an empty row")
    else if hrect : Rectangular rows first.length then
      if hlt : first.length < 256 ∧ rows.length < 256 then
        .ok { rows := rows, columns := first.length, rectangular := hrect,
              columns_pos := Nat.pos_of_ne_zero hcol, rows_pos := by simp [hrows],
              columns_lt := hlt.1, rows_lt := hlt.2 }
      else .error (.invalidMask (refusal first.length rows.length))
    else .error (.invalidMask "mask rows differ in length")

/-- The number of columns, as a side of a rectangle. -/
def width (m : Mask) : UInt8 := UInt8.ofNat m.columns

/-- The number of rows, as a side of a rectangle. -/
def height (m : Mask) : UInt8 := UInt8.ofNat m.rows.length

/-- The number of set cells. -/
def count (m : Mask) : Nat :=
  m.rows.foldl (fun n row => n + row.countP (· ≠ 0)) 0

/-- The columns of a pattern from left to right, each read from top to bottom. -/
def columnLists (rows : List (List UInt8)) (columns : Nat) : List (List UInt8) :=
  (List.range columns).map fun x => rows.map fun row => row.getD x 0

theorem length_columnLists (rows : List (List UInt8)) (columns : Nat) :
    (columnLists rows columns).length = columns := by simp [columnLists]

theorem rectangular_columnLists (rows : List (List UInt8)) (columns : Nat) :
    Rectangular (columnLists rows columns) rows.length := by
  intro row hrow
  obtain ⟨x, -, rfl⟩ := List.mem_map.1 hrow
  simp

/-- The mask turned by a quarter to the left: the last column becomes the first row. -/
def turnLeft (m : Mask) : Mask where
  rows := (columnLists m.rows m.columns).reverse
  columns := m.rows.length
  rectangular row hrow := rectangular_columnLists _ _ row (List.mem_reverse.1 hrow)
  columns_pos := m.rows_pos
  rows_pos := by simpa [length_columnLists] using m.columns_pos
  columns_lt := m.rows_lt
  rows_lt := by simpa [length_columnLists] using m.columns_lt

/-- The mask turned by a quarter to the right: the first column, read upwards, becomes the first
row. -/
def turnRight (m : Mask) : Mask where
  rows := columnLists m.rows.reverse m.columns
  columns := m.rows.length
  rectangular row hrow := by
    simpa using rectangular_columnLists m.rows.reverse m.columns row hrow
  columns_pos := m.rows_pos
  rows_pos := by simpa [length_columnLists] using m.columns_pos
  columns_lt := m.rows_lt
  rows_lt := by simpa [length_columnLists] using m.columns_lt

/-- The mask with each row read backwards. -/
def mirrorHorizontal (m : Mask) : Mask where
  rows := m.rows.map List.reverse
  columns := m.columns
  rectangular row hrow := by
    obtain ⟨r, hr, rfl⟩ := List.mem_map.1 hrow
    simpa using m.rectangular r hr
  columns_pos := m.columns_pos
  rows_pos := by simpa using m.rows_pos
  columns_lt := m.columns_lt
  rows_lt := by simpa using m.rows_lt

/-- The mask with its rows in opposite order. -/
def mirrorVertical (m : Mask) : Mask where
  rows := m.rows.reverse
  columns := m.columns
  rectangular row hrow := m.rectangular row (List.mem_reverse.1 hrow)
  columns_pos := m.columns_pos
  rows_pos := by simpa using m.rows_pos
  columns_lt := m.columns_lt
  rows_lt := by simpa using m.rows_lt

/-- The mask turned by half a turn. -/
def turnOver (m : Mask) : Mask where
  rows := (m.rows.map List.reverse).reverse
  columns := m.columns
  rectangular row hrow := by
    obtain ⟨r, hr, rfl⟩ := List.mem_map.1 (List.mem_reverse.1 hrow)
    simpa using m.rectangular r hr
  columns_pos := m.columns_pos
  rows_pos := by simpa using m.rows_pos
  columns_lt := m.columns_lt
  rows_lt := by simpa using m.rows_lt

/-- The coordinate `offset` places after `start`, if it is an 8-bit number. -/
def shift? (start : UInt8) (offset : Nat) : Option UInt8 :=
  if start.toNat + offset < 256 then some (UInt8.ofNat (start.toNat + offset)) else none

/-- The dots of the set cells of one row, `y` being the row they fall on. -/
def stampRow (x y : UInt8) (row : List UInt8) : List Dot :=
  row.zipIdx.filterMap fun (cell, dx) =>
    if cell = 0 then none else (shift? x dx).map fun column => ⟨column, y⟩

/-- The dots covered by the set cells when the upper left cell lies on a corner, row by row. Cells
outside the coordinate range cover nothing. -/
def location (m : Mask) (corner : Dot) : Location :=
  ⟨m.rows.zipIdx.flatMap fun (row, dy) =>
    match shift? corner.y dy with
    | some y => stampRow corner.x y row
    | none => []⟩

/-- The mask made of the given rows, which form a rectangle. -/
private def ofRows (rows : List (List UInt8)) (columns : Nat)
    (h : Rectangular rows columns ∧ 0 < columns ∧ 0 < rows.length ∧ columns < 256 ∧
      rows.length < 256) : Mask :=
  ⟨rows, columns, h.1, h.2.1, h.2.2.1, h.2.2.2.1, h.2.2.2.2⟩

/-- A full square of four cells. -/
def square2x2 : Mask := ofRows [[1, 1], [1, 1]] 2 (by decide)

/-- A plus sign. -/
def cross : Mask := ofRows [[0, 1, 0], [1, 1, 1], [0, 1, 0]] 3 (by decide)

/-- A falling diagonal. -/
def diagonal : Mask := ofRows [[1, 0, 0], [0, 1, 0], [0, 0, 1]] 3 (by decide)

/-- A tank seen from above, its gun upwards. -/
def tank : Mask := ofRows [[0, 1, 0], [1, 1, 1], [1, 0, 1]] 3 (by decide)

/-- A walled yard with a gate in its lower wall. -/
def home : Mask :=
  ofRows [[1, 1, 1, 1, 1], [1, 0, 0, 0, 1], [1, 0, 0, 0, 1], [1, 1, 0, 1, 1]] 5 (by decide)

/-- The masks that have a name. -/
def named : List (String × Mask) :=
  [("square_2x2", square2x2), ("cross", cross), ("diagonal", diagonal), ("tank", tank),
    ("home", home)]

/-! ### Sides -/

@[simp] theorem width_turnLeft (m : Mask) : m.turnLeft.width = m.height := rfl

@[simp] theorem height_turnLeft (m : Mask) : m.turnLeft.height = m.width :=
  congrArg UInt8.ofNat (List.length_reverse.trans (length_columnLists _ _))

@[simp] theorem width_turnRight (m : Mask) : m.turnRight.width = m.height := rfl

@[simp] theorem height_turnRight (m : Mask) : m.turnRight.height = m.width :=
  congrArg UInt8.ofNat (length_columnLists _ _)

@[simp] theorem width_turnOver (m : Mask) : m.turnOver.width = m.width := rfl

@[simp] theorem height_turnOver (m : Mask) : m.turnOver.height = m.height :=
  congrArg UInt8.ofNat (List.length_reverse.trans (List.length_map _))

theorem width_ne_zero (m : Mask) : m.width ≠ 0 := by
  intro h
  have hzero := congrArg UInt8.toNat h
  rw [width, UInt8.toNat_ofNat_of_lt' m.columns_lt] at hzero
  exact Nat.ne_of_gt m.columns_pos hzero

theorem height_ne_zero (m : Mask) : m.height ≠ 0 := by
  intro h
  have hzero := congrArg UInt8.toNat h
  rw [height, UInt8.toNat_ofNat_of_lt' m.rows_lt] at hzero
  exact Nat.ne_of_gt m.rows_pos hzero

/-! ### Equality -/

@[ext] theorem ext {m m' : Mask} (h : m.rows = m'.rows) : m = m' := by
  obtain ⟨rows, columns, hrect, _, hpos, _, _⟩ := m
  obtain ⟨rows', columns', hrect', _, _, _, _⟩ := m'
  obtain rfl : rows = rows' := h
  have hmem := List.getElem_mem hpos
  obtain rfl : columns = columns' := (hrect _ hmem).symm.trans (hrect' _ hmem)
  rfl

theorem make_rows (m : Mask) : make m.rows = .ok m := by
  obtain ⟨rows, columns, hrect, hcol, hpos, hclt, hrlt⟩ := m
  cases rows with
  | nil => exact absurd hpos (Nat.lt_irrefl 0)
  | cons first rest =>
    have hfirst : first.length = columns := hrect first List.mem_cons_self
    subst hfirst
    simp only [make, Nat.ne_of_gt hcol, hrect, hclt, hrlt, dite_true, dite_false, and_self]

theorem make_eq_ok_iff {rows : List (List UInt8)} {m : Mask} :
    make rows = .ok m ↔ m.rows = rows := by
  refine ⟨fun h => ?_, fun h => h ▸ make_rows m⟩
  cases rows with
  | nil => cases h
  | cons first rest =>
    rw [make] at h
    split at h
    · cases h
    · split at h
      · split at h <;> cases h
        rfl
      · cases h

end Mask

end ClaimGrid
