import ClaimGrid.Chance.Uniform
import ClaimGrid.Grid.Area
import ClaimGrid.Grid.Mask

/-!
# Random dots, rectangles, directions and turns

Each grid value that is chosen by chance is drawn from a word stream, which moves on by the words
the draw took.

## Main definitions

* `Area.randomDot`, `Area.randomRect`: a dot of an area, a rectangle inside it.
* `Direction.random`: one of the four directions.
* `Turn`, `Mask.turned`: the four rotations of a mask.
* `Mask.randomTurn`: a mask in one of its four rotations.

## Main results

* `Area.contains_randomDot`: a drawn dot lies in the area.
* `Area.randomRect_of_fits`: a size that fits is placed inside the area, whatever is drawn.
* `Area.randomRect_of_not_fits`: any other size is refused, and nothing is drawn.
-/

namespace ClaimGrid

/-- A dot of the area: first its column is drawn, then its row. -/
def Area.randomDot (a : Area) (s : WordStream) : Dot × WordStream :=
  let column := s.below32 a.width.toNat
  let row := column.2.below32 a.height.toNat
  (⟨UInt8.ofNat column.1, UInt8.ofNat row.1⟩, row.2)

/-- A rectangle of the given sides inside the area: first its column is drawn, then its row. A size
that cannot be placed is refused and draws nothing. -/
def Area.randomRect (a : Area) (width height : UInt8) (s : WordStream) :
    Except GridError Rect × WordStream :=
  if width = 0 ∨ height = 0 then (.error (.invalidRect 0 0 width height), s)
  else if a.width < width ∨ a.height < height then
    (.error (.rectDoesNotFit width height a.width a.height), s)
  else
    let column := s.below32 (a.width.toNat - width.toNat + 1)
    let row := column.2.below32 (a.height.toNat - height.toNat + 1)
    (Rect.make (UInt8.ofNat column.1) (UInt8.ofNat row.1) width height, row.2)

/-- One of the four directions. -/
def Direction.random (s : WordStream) : Direction × WordStream :=
  let i := s.belowShifted64 Direction.all.length
  (Direction.all.getD i.1 .north, i.2)

/-- A rotation by a multiple of a quarter turn. -/
inductive Turn where
  /-- No rotation. -/
  | keep
  /-- A quarter turn to the left. -/
  | left
  /-- A quarter turn to the right. -/
  | right
  /-- A half turn. -/
  | half
  deriving DecidableEq, Inhabited

/-- The rotations in the order in which they are drawn. -/
def Turn.all : List Turn := [keep, left, right, half]

/-- A mask after a rotation. -/
def Mask.turned (m : Mask) : Turn → Mask
  | .keep => m
  | .left => m.turnLeft
  | .right => m.turnRight
  | .half => m.turnOver

/-- One of the four rotations. -/
def Turn.random (s : WordStream) : Turn × WordStream :=
  let i := s.belowShifted32 Turn.all.length
  (Turn.all.getD i.1 .keep, i.2)

/-- The mask in one of its four rotations. -/
def Mask.randomTurn (m : Mask) (s : WordStream) : Mask × WordStream :=
  let t := Turn.random s
  (m.turned t.1, t.2)

private theorem ofNat_lt_of_lt {n : Nat} {side : UInt8} (h : n < side.toNat) :
    UInt8.ofNat n < side := by
  rw [UInt8.lt_iff_toNat_lt, UInt8.toNat_ofNat_of_lt' (Nat.lt_trans h side.toNat_lt)]
  exact h

private theorem toNat_ofNat_of_le {n : Nat} {side : UInt8} (h : n ≤ side.toNat) :
    (UInt8.ofNat n).toNat = n :=
  UInt8.toNat_ofNat_of_lt' (Nat.lt_of_le_of_lt h side.toNat_lt)

theorem Area.contains_randomDot (a : Area) (s : WordStream) :
    a.contains (a.randomDot s).1 = true := by
  have hx := WordStream.below32_lt a.width_pos s
  have hy := WordStream.below32_lt a.height_pos (s.below32 a.width.toNat).2
  rw [Area.contains, Bool.and_eq_true]
  exact ⟨decide_eq_true (ofNat_lt_of_lt hx), decide_eq_true (ofNat_lt_of_lt hy)⟩

/-- A size that cannot be placed is refused from every stream, and nothing is drawn. -/
theorem Area.randomRect_of_not_fits {a : Area} {width height : UInt8}
    (h : width = 0 ∨ height = 0 ∨ a.width < width ∨ a.height < height) :
    ∃ e, ∀ s, a.randomRect width height s = (.error e, s) := by
  by_cases hzero : width = 0 ∨ height = 0
  · exact ⟨.invalidRect 0 0 width height, fun s => by rw [randomRect, if_pos hzero]⟩
  · have hlarge : a.width < width ∨ a.height < height :=
      (or_assoc.2 h).resolve_left hzero
    exact ⟨.rectDoesNotFit width height a.width a.height, fun s => by
      rw [randomRect, if_neg hzero, if_pos hlarge]⟩

/-- A size that fits is placed inside the area, whatever is drawn. -/
theorem Area.randomRect_of_fits {a : Area} {width height : UInt8} (hw : width ≠ 0)
    (hh : height ≠ 0) (hwa : width ≤ a.width) (hha : height ≤ a.height) (s : WordStream) :
    ∃ r t, a.randomRect width height s = (.ok r, t) ∧ r.width = width ∧ r.height = height ∧
      a.containsRect r = true := by
  have hzero : ¬(width = 0 ∨ height = 0) := not_or.2 ⟨hw, hh⟩
  have hlarge : ¬(a.width < width ∨ a.height < height) :=
    not_or.2 ⟨UInt8.not_lt.2 hwa, UInt8.not_lt.2 hha⟩
  rw [randomRect, if_neg hzero, if_neg hlarge]
  have hpos (n : Nat) (t : WordStream) : (t.below32 (n + 1)).1 < n + 1 :=
    WordStream.below32_lt (Nat.succ_pos n) t
  have hx := hpos (a.width.toNat - width.toNat) s
  have hy := hpos (a.height.toNat - height.toNat) (s.below32 (a.width.toNat - width.toNat + 1)).2
  have hwpos : 0 < width.toNat := Nat.pos_of_ne_zero fun e => hw (UInt8.toNat_inj.1 e)
  have hhpos : 0 < height.toNat := Nat.pos_of_ne_zero fun e => hh (UInt8.toNat_inj.1 e)
  rw [UInt8.le_iff_toNat_le] at hwa hha
  have hwlt := a.width.toNat_lt
  have hhlt := a.height.toNat_lt
  have hx' := toNat_ofNat_of_le (Nat.le_trans (Nat.le_of_lt_succ hx) (Nat.sub_le _ _))
  have hy' := toNat_ofNat_of_le (Nat.le_trans (Nat.le_of_lt_succ hy) (Nat.sub_le _ _))
  refine ⟨_, _, Prod.ext (Rect.make_eq_ok_iff.2 ⟨?_, rfl⟩) rfl, rfl, rfl, ?_⟩
  · simp only [Rect.IsValid, hx', hy']
    omega
  · simp only [Area.containsRect, Bool.and_eq_true, decide_eq_true_eq, hx', hy']
    omega

end ClaimGrid
