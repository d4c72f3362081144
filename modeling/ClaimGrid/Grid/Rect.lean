import ClaimGrid.Grid.Location

/-!
# Rectangles

An axis-aligned rectangle, named by its upper left corner and its sides.

## Main definitions

* `Rect`: corner and sides, unchecked.
* `Rect.IsValid`: positive sides, inside the coordinate range.
* `Rect.make`: the checked constructor.
* `Rect.location`: the dots of a rectangle, row by row.
* `Rect.expand`: the rectangle grown on every side.

## Main results

* `Rect.make_eq_ok_iff`: the constructor accepts exactly the valid rectangles.
-/

namespace ClaimGrid

/-- An axis-aligned rectangle. Only `Rect.make` checks that it lies in the coordinate range. -/
structure Rect where
  /-- Leftmost column. -/
  x : UInt8
  /-- Topmost row. -/
  y : UInt8
  /-- Number of columns. -/
  width : UInt8
  /-- Number of rows. -/
  height : UInt8
  deriving DecidableEq, Inhabited

namespace Rect

/-- A rectangle is valid when it has dots and all of them have 8-bit coordinates. -/
def IsValid (r : Rect) : Prop :=
  0 < r.width.toNat ∧ 0 < r.height.toNat ∧
    r.x.toNat + r.width.toNat ≤ 256 ∧ r.y.toNat + r.height.toNat ≤ 256

instance (r : Rect) : Decidable r.IsValid := by unfold IsValid; infer_instance

/-- A rectangle, refused unless it is valid. -/
def make (x y width height : UInt8) : Except GridError Rect :=
  if (Rect.mk x y width height).IsValid then .ok ⟨x, y, width, height⟩
  else .error (.invalidRect x y width height)

/-- The upper left corner. -/
def origin (r : Rect) : Dot := ⟨r.x, r.y⟩

/-- Whether a dot lies in the rectangle. -/
def contains (r : Rect) (d : Dot) : Bool :=
  r.x ≤ d.x && r.y ≤ d.y &&
    d.x.toNat < r.x.toNat + r.width.toNat && d.y.toNat < r.y.toNat + r.height.toNat

/-- The dots of the rectangle, row by row. -/
def location (r : Rect) : Location :=
  ⟨(List.range r.height.toNat).flatMap fun dy =>
    (List.range r.width.toNat).map fun dx => ⟨r.x + UInt8.ofNat dx, r.y + UInt8.ofNat dy⟩⟩

/-- The rectangle grown by `margin` on every side, if it stays in the coordinate range and its
sides stay 8-bit numbers. -/
def expand (r : Rect) (margin : UInt8) : Option Rect :=
  if margin ≤ r.x ∧ margin ≤ r.y ∧ r.width.toNat + 2 * margin.toNat < 256 ∧
      r.height.toNat + 2 * margin.toNat < 256 then
    (make (r.x - margin) (r.y - margin) (r.width + margin + margin)
      (r.height + margin + margin)).toOption
  else none

/-- A rectangle as it is shown to a developer. -/
def outline (r : Rect) : Outline :=
  .record "Rect" [("x", .number r.x.toNat), ("y", .number r.y.toNat),
    ("width", .number r.width.toNat), ("height", .number r.height.toNat)]

theorem make_eq_ok_iff {x y width height : UInt8} {r : Rect} :
    make x y width height = .ok r ↔ r.IsValid ∧ r = ⟨x, y, width, height⟩ := by
  unfold make
  split <;> rename_i h
  · simp only [Except.ok.injEq]
    exact ⟨fun e => e ▸ ⟨h, rfl⟩, fun e => e.2.symm⟩
  · simp only [reduceCtorEq, false_iff]
    rintro ⟨hr, rfl⟩
    exact h hr

end Rect

end ClaimGrid
