import ClaimGrid.Proofs.Grid.Places
import ClaimGrid.Proofs.Traverse

/-!
# Coordinates that never overflow

Coordinates are 8-bit numbers, and their sums are compared and wrapped as 16-bit numbers. Here
rectangles are made, drawn and listed once more, and dots navigated from, with an arithmetic that
gives up where a result does not fit its width. It never does, as long as the rectangle lies in the
coordinate range, and a rectangle that is drawn in an area does.

## Main definitions

* `add8?`, `sub8?`, `narrow8?`, `add16?`, `sub16?`, `mul16?`, `mod16?`: results that fit, or none.
* `Rect.makeChecked?`, `Rect.locationChecked?`, `Area.sizeChecked?`, `Area.randomRectChecked?`,
  `Area.navigateChecked?`: the computations with that arithmetic.

## Main results

* `Area.sizeChecked?_eq`: the number of dots is a 16-bit number.
* `Rect.makeChecked?_eq`, `Rect.locationChecked?_eq`, `Area.randomRectChecked?_eq`: rectangles.
* `Area.navigateChecked?_eq`: navigation.
-/

namespace ClaimGrid

/-- The sum, if it is an 8-bit number. -/
def add8? (a b : UInt8) : Option UInt8 :=
  if a.toNat + b.toNat < UInt8.size then some (a + b) else none

/-- The difference, if it is not negative. -/
def sub8? (a b : UInt8) : Option UInt8 := if b ≤ a then some (a - b) else none

/-- The number, if it is an 8-bit number. -/
def narrow8? (n : Nat) : Option UInt8 := if n < UInt8.size then some (UInt8.ofNat n) else none

/-- The sum, if it is a 16-bit number. -/
def add16? (a b : UInt16) : Option UInt16 :=
  if a.toNat + b.toNat < UInt16.size then some (a + b) else none

/-- The product, if it is a 16-bit number. -/
def mul16? (a b : UInt16) : Option UInt16 :=
  if a.toNat * b.toNat < UInt16.size then some (a * b) else none

/-- The difference, if it is not negative. -/
def sub16? (a b : UInt16) : Option UInt16 := if b ≤ a then some (a - b) else none

/-- The remainder, if the divisor is not zero. -/
def mod16? (a b : UInt16) : Option UInt16 := if b = 0 then none else some (a % b)

theorem add8?_eq {a b : UInt8} (h : a.toNat + b.toNat < 256) : add8? a b = some (a + b) :=
  if_pos h

theorem narrow8?_eq {n : Nat} (h : n < 256) : narrow8? n = some (UInt8.ofNat n) := if_pos h

theorem narrow8?_mod {n : Nat} {side : UInt8} (hside : 0 < side.toNat) :
    narrow8? (n % side.toNat) = some (UInt8.ofNat (n % side.toNat)) :=
  narrow8?_eq (Nat.lt_trans (Nat.mod_lt n hside) side.toNat_lt)

theorem add16?_of_lt {a b : UInt16} (h : a.toNat + b.toNat < 65536) :
    ∃ s, add16? a b = some s ∧ s.toNat = a.toNat + b.toNat := by
  refine ⟨a + b, if_pos h, ?_⟩
  rw [UInt16.toNat_add, Nat.mod_eq_of_lt h]

theorem sub16?_of_le {a b : UInt16} (h : b.toNat ≤ a.toNat) :
    ∃ s, sub16? a b = some s ∧ s.toNat = a.toNat - b.toNat := by
  have hle : b ≤ a := UInt16.le_iff_toNat_le.2 h
  exact ⟨a - b, if_pos hle, UInt16.toNat_sub_of_le _ _ hle⟩

theorem mod16?_toUInt16 (n : UInt16) {side : UInt8} (hside : 0 < side.toNat) :
    ∃ r, mod16? n side.toUInt16 = some r ∧ r.toNat = n.toNat % side.toNat := by
  refine ⟨n % side.toUInt16, if_neg fun h => ?_, ?_⟩
  · rw [← UInt16.toNat_inj, UInt8.toNat_toUInt16] at h
    exact Nat.ne_of_gt hside h
  · rw [UInt16.toNat_mod, UInt8.toNat_toUInt16]

/-! ### Rectangles -/

namespace Rect

/-- The checked constructor; both far edges are 16-bit sums. -/
def makeChecked? (x y width height : UInt8) : Option (Except GridError Rect) := do
  let right ← add16? x.toUInt16 width.toUInt16
  let lower ← add16? y.toUInt16 height.toUInt16
  return if width = 0 ∨ height = 0 ∨ ¬(right ≤ 256 ∧ lower ≤ 256) then
    .error (.invalidRect x y width height)
  else .ok ⟨x, y, width, height⟩

/-- The dots of the rectangle, row by row; every coordinate is an 8-bit sum. -/
def locationChecked? (r : Rect) : Option Location := do
  let rows ← (List.range r.height.toNat).mapM fun dy =>
    (List.range r.width.toNat).mapM fun dx => do
      let x ← add8? r.x (UInt8.ofNat dx)
      let y ← add8? r.y (UInt8.ofNat dy)
      return (⟨x, y⟩ : Dot)
  return ⟨rows.flatten⟩

theorem makeChecked?_eq (x y width height : UInt8) :
    makeChecked? x y width height = some (make x y width height) := by
  have hadd (a b : UInt8) : add16? a.toUInt16 b.toUInt16 = some (a.toUInt16 + b.toUInt16) := by
    have ha := a.toNat_lt
    have hb := b.toNat_lt
    refine if_pos ?_
    rw [UInt8.toNat_toUInt16, UInt8.toNat_toUInt16, UInt16.size]
    omega
  have hle (a b : UInt8) : a.toUInt16 + b.toUInt16 ≤ 256 ↔ a.toNat + b.toNat ≤ 256 := by
    have ha := a.toNat_lt
    have hb := b.toNat_lt
    rw [UInt16.le_iff_toNat_le, UInt16.toNat_add, UInt8.toNat_toUInt16, UInt8.toNat_toUInt16,
      Nat.mod_eq_of_lt (by omega)]
    rfl
  have hpos (a : UInt8) : a = 0 ↔ ¬0 < a.toNat := by
    rw [← UInt8.toNat_inj, UInt8.toNat_zero, Nat.pos_iff_ne_zero, not_not]
  have hvalid : (width = 0 ∨ height = 0 ∨ ¬(x.toUInt16 + width.toUInt16 ≤ 256 ∧
      y.toUInt16 + height.toUInt16 ≤ 256)) ↔ ¬(Rect.mk x y width height).IsValid := by
    rw [IsValid, hle, hle, hpos, hpos, ← not_and_or, ← not_and_or]
  rw [makeChecked?, hadd, hadd]
  simp only [Option.bind_eq_bind, Option.bind_some, hvalid, ite_not]
  rfl

/-- The dots of a rectangle in the coordinate range are found without overflow. -/
theorem locationChecked?_eq {r : Rect} (hright : r.x.toNat + r.width.toNat ≤ 256)
    (hlower : r.y.toNat + r.height.toNat ≤ 256) : r.locationChecked? = some r.location := by
  have hrows : ((List.range r.height.toNat).mapM fun dy =>
      (List.range r.width.toNat).mapM fun dx => do
        let x ← add8? r.x (UInt8.ofNat dx)
        let y ← add8? r.y (UInt8.ofNat dy)
        return (⟨x, y⟩ : Dot)) = some ((List.range r.height.toNat).map fun dy =>
          (List.range r.width.toNat).map fun dx =>
            ⟨r.x + UInt8.ofNat dx, r.y + UInt8.ofNat dy⟩) := by
    refine mapM_eq_some_map fun dy hdy => mapM_eq_some_map fun dx hdx => ?_
    rw [List.mem_range] at hdy hdx
    have hdx' : dx < 256 := Nat.lt_trans hdx r.width.toNat_lt
    have hdy' : dy < 256 := Nat.lt_trans hdy r.height.toNat_lt
    have hx : (UInt8.ofNat dx).toNat = dx := UInt8.toNat_ofNat_of_lt' hdx'
    have hy : (UInt8.ofNat dy).toNat = dy := UInt8.toNat_ofNat_of_lt' hdy'
    rw [add8?_eq (by rw [hx]; omega), add8?_eq (by rw [hy]; omega)]
    rfl
  rw [locationChecked?, hrows]
  rfl

end Rect

/-! ### Areas -/

namespace Area

variable {area : Area}

/-- The number of dots, as a 16-bit product. -/
def sizeChecked? (a : Area) : Option UInt16 := mul16? a.width.toUInt16 a.height.toUInt16

/-- A rectangle of the given sides inside the area. The room left for its corner is an 8-bit
difference. -/
def randomRectChecked? (a : Area) (width height : UInt8) (s : WordStream) :
    Option (Except GridError Rect × WordStream) :=
  if width = 0 ∨ height = 0 then some (.error (.invalidRect 0 0 width height), s)
  else if a.width < width ∨ a.height < height then
    some (.error (.rectDoesNotFit width height a.width a.height), s)
  else do
    let columns ← sub8? a.width width
    let column := s.below32 (columns.toNat + 1)
    let rows ← sub8? a.height height
    let row := column.2.below32 (rows.toNat + 1)
    let r ← Rect.makeChecked? (UInt8.ofNat column.1) (UInt8.ofNat row.1) width height
    return (r, row.2)

theorem sizeChecked?_eq (a : Area) : a.sizeChecked? = some (UInt16.ofNat a.size) ∧
    (UInt16.ofNat a.size).toNat = a.size := by
  have hlt : a.size < UInt16.size := by
    have hw := Nat.le_of_lt_succ a.width.toNat_lt
    have hh := Nat.le_of_lt_succ a.height.toNat_lt
    exact Nat.lt_of_le_of_lt (Nat.mul_le_mul hw hh) (by decide)
  have hsize : a.width.toUInt16.toNat * a.height.toUInt16.toNat = a.size := by
    rw [UInt8.toNat_toUInt16, UInt8.toNat_toUInt16, size]
  have hof : (UInt16.ofNat a.size).toNat = a.size := UInt16.toNat_ofNat_of_lt' hlt
  refine ⟨?_, hof⟩
  rw [sizeChecked?, mul16?, hsize, if_pos hlt]
  refine congrArg some (UInt16.toNat_inj.1 ?_)
  rw [UInt16.toNat_mul, hsize, hof]
  exact Nat.mod_eq_of_lt hlt

theorem randomRectChecked?_eq (a : Area) (width height : UInt8) (s : WordStream) :
    a.randomRectChecked? width height s = some (a.randomRect width height s) := by
  rw [randomRectChecked?, randomRect]
  split
  · rfl
  · split
    · rfl
    · rename_i hlarge
      rw [not_or, UInt8.not_lt, UInt8.not_lt] at hlarge
      have hcolumns : sub8? a.width width = some (a.width - width) := if_pos hlarge.1
      have hrows : sub8? a.height height = some (a.height - height) := if_pos hlarge.2
      simp only [hcolumns, hrows, Rect.makeChecked?_eq, Option.bind_eq_bind, Option.bind_some,
        UInt8.toNat_sub_of_le _ _ hlarge.1, UInt8.toNat_sub_of_le _ _ hlarge.2]
      rfl

theorem locationChecked?_of_containsRect {r : Rect} (h : area.containsRect r = true) :
    r.locationChecked? = some r.location := by
  obtain ⟨hright, hlower⟩ := containsRect_iff.1 h
  have hwidth := area.width.toNat_lt
  have hheight := area.height.toNat_lt
  exact Rect.locationChecked?_eq (by omega) (by omega)

/-! ### Navigation -/

/-- The coordinate `distance` steps ahead; sums and remainders are 16-bit numbers, and the result
is narrowed. -/
def wrapForwardChecked? (coord distance side : UInt8) : Option UInt8 := do
  let rest ← mod16? distance.toUInt16 side.toUInt16
  let sum ← add16? coord.toUInt16 rest
  let place ← mod16? sum side.toUInt16
  narrow8? place.toNat

/-- The coordinate `distance` steps back. The side is added before anything is subtracted. -/
def wrapBackChecked? (coord distance side : UInt8) : Option UInt8 := do
  let rest ← mod16? distance.toUInt16 side.toUInt16
  let sum ← add16? coord.toUInt16 side.toUInt16
  let difference ← sub16? sum rest
  let place ← mod16? difference side.toUInt16
  narrow8? place.toNat

/-- The dot so many steps away from `d`, refused if `d` lies outside. -/
def navigateChecked? (a : Area) (d : Dot) (direction : Direction) (distance : UInt8) :
    Option (Except GridError Dot) :=
  if a.contains d then
    match direction with
    | .north => do
      let y ← wrapBackChecked? d.y distance a.height
      return .ok ⟨d.x, y⟩
    | .south => do
      let y ← wrapForwardChecked? d.y distance a.height
      return .ok ⟨d.x, y⟩
    | .east => do
      let x ← wrapForwardChecked? d.x distance a.width
      return .ok ⟨x, d.y⟩
    | .west => do
      let x ← wrapBackChecked? d.x distance a.width
      return .ok ⟨x, d.y⟩
  else some (.error (.dotOutOfArea d a.width a.height))

section Navigation

variable {coord distance side : UInt8}

theorem wrapForwardChecked?_eq (hside : 0 < side.toNat) :
    wrapForwardChecked? coord distance side = some (wrapForward coord distance side) := by
  have hcoord := coord.toNat_lt
  have hlt := side.toNat_lt
  have hmod := Nat.mod_lt distance.toNat hside
  obtain ⟨rest, hrest, hrest'⟩ := mod16?_toUInt16 distance.toUInt16 hside
  rw [UInt8.toNat_toUInt16] at hrest'
  obtain ⟨sum, hsum, hsum'⟩ := add16?_of_lt (a := coord.toUInt16) (b := rest)
    (by rw [UInt8.toNat_toUInt16]; omega)
  obtain ⟨place, hplace, hplace'⟩ := mod16?_toUInt16 sum hside
  simp only [wrapForwardChecked?, hrest, hsum, hplace, Option.bind_eq_bind, Option.bind_some]
  rw [hplace', narrow8?_mod hside, wrapForward, hsum', hrest', UInt8.toNat_toUInt16]

theorem wrapBackChecked?_eq (hside : 0 < side.toNat) :
    wrapBackChecked? coord distance side = some (wrapBack coord distance side) := by
  have hcoord := coord.toNat_lt
  have hlt := side.toNat_lt
  have hmod := Nat.mod_lt distance.toNat hside
  obtain ⟨rest, hrest, hrest'⟩ := mod16?_toUInt16 distance.toUInt16 hside
  rw [UInt8.toNat_toUInt16] at hrest'
  obtain ⟨sum, hsum, hsum'⟩ := add16?_of_lt (a := coord.toUInt16) (b := side.toUInt16)
    (by rw [UInt8.toNat_toUInt16, UInt8.toNat_toUInt16]; omega)
  rw [UInt8.toNat_toUInt16, UInt8.toNat_toUInt16] at hsum'
  obtain ⟨difference, hdifference, hdifference'⟩ := sub16?_of_le (a := sum) (b := rest) (by omega)
  obtain ⟨place, hplace, hplace'⟩ := mod16?_toUInt16 difference hside
  simp only [wrapBackChecked?, hrest, hsum, hdifference, hplace, Option.bind_eq_bind,
    Option.bind_some]
  rw [hplace', narrow8?_mod hside, wrapBack, hdifference', hsum', hrest']

theorem navigateChecked?_eq (a : Area) (d : Dot) (direction : Direction) (distance : UInt8) :
    a.navigateChecked? d direction distance = some (a.navigate d direction distance) := by
  unfold navigateChecked? navigate
  split
  · cases direction <;>
      simp only [wrapForwardChecked?_eq a.width_pos, wrapForwardChecked?_eq a.height_pos,
        wrapBackChecked?_eq a.width_pos, wrapBackChecked?_eq a.height_pos, Option.bind_eq_bind,
        Option.bind_some] <;>
      rfl
  · rfl

end Navigation

end Area

end ClaimGrid
