import ClaimGrid.Grid.Direction
import ClaimGrid.Grid.Rect

/-!
# Areas

An area is the bounded playing field. Its opposite edges are joined, so walking off one edge
leads back in at the other.

## Main definitions

* `Area`: a field with positive sides.
* `Area.make`: the checked constructor.
* `Area.contains`, `Area.containsLocation`, `Area.containsRect`: what lies inside.
* `Area.navigate`: steps in a direction, wrapping at the edges.

## Main results

* `Area.make_eq_ok_iff`: the constructor accepts exactly positive sides.
* `Area.wrapForward_lt`, `Area.wrapBack_lt`: wrapped coordinates stay below the side.
-/

namespace ClaimGrid

/-- A bounded field whose opposite edges are joined. -/
structure Area where
  /-- Number of columns. -/
  width : UInt8
  /-- Number of rows. -/
  height : UInt8
  /-- There is a column. -/
  width_pos : 0 < width.toNat
  /-- There is a row. -/
  height_pos : 0 < height.toNat
  deriving DecidableEq

namespace Area

/-- An area, refused if a side is zero. -/
def make (width height : UInt8) : Except GridError Area :=
  if h : 0 < width.toNat ∧ 0 < height.toNat then .ok ⟨width, height, h.1, h.2⟩
  else .error (.invalidArea width height)

/-- The number of dots. -/
def size (a : Area) : Nat := a.width.toNat * a.height.toNat

/-- Whether a dot lies inside. -/
def contains (a : Area) (d : Dot) : Bool := d.x < a.width && d.y < a.height

/-- Whether every dot of a location lies inside. -/
def containsLocation (a : Area) (l : Location) : Bool := l.dots.all a.contains

/-- Whether a rectangle ends before the far edges. -/
def containsRect (a : Area) (r : Rect) : Bool :=
  r.x.toNat + r.width.toNat ≤ a.width.toNat && r.y.toNat + r.height.toNat ≤ a.height.toNat

/-- The coordinate `distance` steps ahead on a ring of `side` places. -/
def wrapForward (coord distance side : UInt8) : UInt8 :=
  UInt8.ofNat ((coord.toNat + distance.toNat % side.toNat) % side.toNat)

/-- The coordinate `distance` steps back on a ring of `side` places. -/
def wrapBack (coord distance side : UInt8) : UInt8 :=
  UInt8.ofNat ((coord.toNat + side.toNat - distance.toNat % side.toNat) % side.toNat)

/-- The dot reached by walking from `d`, refused if `d` lies outside. -/
def navigate (a : Area) (d : Dot) (direction : Direction) (distance : UInt8) :
    Except GridError Dot :=
  if a.contains d then
    .ok <| match direction with
      | .north => ⟨d.x, wrapBack d.y distance a.height⟩
      | .south => ⟨d.x, wrapForward d.y distance a.height⟩
      | .east => ⟨wrapForward d.x distance a.width, d.y⟩
      | .west => ⟨wrapBack d.x distance a.width, d.y⟩
  else .error (.dotOutOfArea d a.width a.height)

/-- An area as it is written in messages. -/
def text (a : Area) : String := GridError.sides a.width a.height

/-- An area as it is shown to a developer. -/
def outline (a : Area) : Outline :=
  .record "Area" [("width", .number a.width.toNat), ("height", .number a.height.toNat)]

theorem make_eq_ok_iff {width height : UInt8} {a : Area} :
    make width height = .ok a ↔ a.width = width ∧ a.height = height := by
  unfold make
  split <;> rename_i h
  · simp only [Except.ok.injEq]
    constructor
    · rintro rfl
      exact ⟨rfl, rfl⟩
    · rintro ⟨rfl, rfl⟩
      rfl
  · simp only [reduceCtorEq, false_iff]
    rintro ⟨rfl, rfl⟩
    exact h ⟨a.width_pos, a.height_pos⟩

private theorem toNat_ofNat_mod {n side : Nat} (hside : 0 < side) (hlt : side < 256) :
    (UInt8.ofNat (n % side)).toNat = n % side :=
  UInt8.toNat_ofNat_of_lt' (Nat.lt_trans (Nat.mod_lt _ hside) hlt)

theorem toNat_wrapForward {coord distance side : UInt8} (hside : 0 < side.toNat) :
    (wrapForward coord distance side).toNat =
      (coord.toNat + distance.toNat % side.toNat) % side.toNat :=
  toNat_ofNat_mod hside side.toNat_lt

theorem toNat_wrapBack {coord distance side : UInt8} (hside : 0 < side.toNat) :
    (wrapBack coord distance side).toNat =
      (coord.toNat + side.toNat - distance.toNat % side.toNat) % side.toNat :=
  toNat_ofNat_mod hside side.toNat_lt

theorem wrapForward_lt {coord distance side : UInt8} (hside : 0 < side.toNat) :
    (wrapForward coord distance side).toNat < side.toNat := by
  rw [toNat_wrapForward hside]
  exact Nat.mod_lt _ hside

theorem wrapBack_lt {coord distance side : UInt8} (hside : 0 < side.toNat) :
    (wrapBack coord distance side).toNat < side.toNat := by
  rw [toNat_wrapBack hside]
  exact Nat.mod_lt _ hside

end Area

end ClaimGrid
