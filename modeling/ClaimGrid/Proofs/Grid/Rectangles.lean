import Mathlib.Algebra.Order.Group.Int
import Mathlib.Algebra.Order.Group.Abs
import ClaimGrid.Proofs.Grid.Checked

/-!
# Views of a rectangle

A rectangle can be asked for a dot, listed row by row, and compared with an area at its edges or dot
by dot. All of these speak of the same dots, also where the rectangle touches the far end of the
coordinate range. Growing a rectangle adds the places within a margin of it. That is refused where
such a place lies outside of the range, and also where a side comes to span the whole range, since
the 256 dots of such a side are too many for an 8-bit number.

## Main definitions

* `Rect.IsWithin`: a place lies within a margin of a rectangle in both axes.
* `Rect.HasRoom`, `Rect.grown`: when a rectangle can be grown, and to what.
* `Rect.expandByParts`: growing with a check of each sum and difference.
* `Rect.LeavesRange`: some place within a margin lies outside of the coordinate range.

## Main results

* `Rect.contains_iff_mem_location`, `Rect.pairwise_location`: the listed dots and their order.
* `Area.containsRect_iff_containsLocation`: a rectangle lies inside with its dots.
* `Rect.views_agree`: all views together.
* `Rect.isWithin_iff`, `Rect.expand_eq_some_iff`: what is within a margin, and what growing answers.
* `Rect.expand_exactly`: when growing is refused, and which dots the grown rectangle has.
-/

namespace ClaimGrid

namespace Rect

variable {r : Rect} {d : Dot} {margin : UInt8}

/-! ### Dots -/

theorem contains_iff : r.contains d = true ↔
    (r.x.toNat ≤ d.x.toNat ∧ d.x.toNat < r.x.toNat + r.width.toNat) ∧
      r.y.toNat ≤ d.y.toNat ∧ d.y.toNat < r.y.toNat + r.height.toNat := by
  simp only [contains, Bool.and_eq_true, decide_eq_true_eq, UInt8.le_iff_toNat_le]
  tauto

/-- The listed dots are those that the rectangle contains. -/
theorem contains_iff_mem_location (h : r.IsValid) : r.contains d = true ↔ d ∈ r.location := by
  rw [contains_iff, mem_location_iff h.2.2.1 h.2.2.2]

theorem offset_lt_offset {start : UInt8} {side n n' : Nat} (hend : start.toNat + side ≤ 256)
    (hn' : n' < side) (h : n < n') : start + UInt8.ofNat n < start + UInt8.ofNat n' := by
  rw [UInt8.lt_iff_toNat_lt, toNat_add_ofNat (by omega), toNat_add_ofNat (by omega)]
  omega

/-- The dots are listed row by row, and each row from left to right. -/
theorem pairwise_location (h : r.IsValid) :
    r.location.dots.Pairwise fun d d' => d.y < d'.y ∨ d.y = d'.y ∧ d.x < d'.x := by
  refine List.pairwise_flatMap.2 ⟨fun dy _ => ?_, ?_⟩
  · refine List.pairwise_map.2 (List.pairwise_lt_range.imp_of_mem fun {dx dx'} _ hdx' hlt => ?_)
    exact .inr ⟨rfl, offset_lt_offset h.2.2.1 (List.mem_range.1 hdx') hlt⟩
  · refine List.pairwise_lt_range.imp_of_mem fun {dy dy'} _ hdy' hlt d hd d' hd' => ?_
    obtain ⟨dx, -, rfl⟩ := List.mem_map.1 hd
    obtain ⟨dx', -, rfl⟩ := List.mem_map.1 hd'
    exact .inl (offset_lt_offset h.2.2.2 (List.mem_range.1 hdy') hlt)

/-- The dot in the lower right corner. -/
theorem exists_last (h : r.IsValid) : ∃ d ∈ r.location,
    d.x.toNat + 1 = r.x.toNat + r.width.toNat ∧ d.y.toNat + 1 = r.y.toNat + r.height.toNat := by
  obtain ⟨hwidth, hheight, hright, hlower⟩ := h
  refine ⟨_, mem_location.2
    ⟨r.height.toNat - 1, by omega, r.width.toNat - 1, by omega, rfl⟩, ?_⟩
  rw [toNat_add_ofNat (by omega), toNat_add_ofNat (by omega)]
  omega

end Rect

/-- A rectangle ends before the far edges of an area exactly if all of its dots lie inside. -/
theorem Area.containsRect_iff_containsLocation {area : Area} {r : Rect} (h : r.IsValid) :
    area.containsRect r = true ↔ area.containsLocation r.location = true := by
  constructor
  · intro hr
    exact List.all_eq_true.2 fun d hd => contains_of_mem_rect hr hd
  · intro hl
    obtain ⟨d, hd, hx, hy⟩ := Rect.exists_last h
    obtain ⟨hdx, hdy⟩ := contains_iff.1 (Location.forall_mem_of_containsLocation hl hd)
    rw [containsRect_iff]
    omega

namespace Rect

variable {r : Rect} {d : Dot} {margin : UInt8}

/-- **The views of a rectangle agree.** A rectangle that the constructor accepts lists exactly the
dots that it contains, each once, row by row, as many as its sides say, and no coordinate overflows.
It lies inside an area exactly if all of its dots do. -/
theorem views_agree {x y width height : UInt8} (h : make x y width height = .ok r) :
    (∀ d, d ∈ r.location ↔ r.contains d = true) ∧ r.location.dots.Nodup ∧
    (r.location.dots.Pairwise fun d d' => d.y < d'.y ∨ d.y = d'.y ∧ d.x < d'.x) ∧
    r.location.size = width.toNat * height.toNat ∧
    r.locationChecked? = some r.location ∧
    ∀ area : Area, area.containsRect r = true ↔ area.containsLocation r.location = true := by
  obtain ⟨hvalid, rfl⟩ := make_eq_ok_iff.1 h
  exact ⟨fun d => (contains_iff_mem_location hvalid).symm,
    nodup_location hvalid.2.2.1 hvalid.2.2.2, pairwise_location hvalid, size_location _,
    locationChecked?_eq hvalid.2.2.1 hvalid.2.2.2,
    fun area => Area.containsRect_iff_containsLocation hvalid⟩

/-- A rectangle in the last corner of the coordinate range. Its far edges are at 256, which is no
8-bit number, yet all of its dots are listed; no area reaches that far. -/
theorem views_agree_in_corner : make 254 253 2 3 = .ok ⟨254, 253, 2, 3⟩ ∧
    ⟨255, 255⟩ ∈ (Rect.mk 254 253 2 3).location ∧ (Rect.mk 254 253 2 3).location.size = 6 ∧
    Area.containsLocation ⟨255, 255, by decide, by decide⟩ (Rect.mk 254 253 2 3).location =
      false := by
  have hmake : make 254 253 2 3 = .ok ⟨254, 253, 2, 3⟩ := by rfl
  obtain ⟨hmem, -, -, hsize, -, harea⟩ := views_agree hmake
  refine ⟨hmake, (hmem _).2 (by decide), hsize, ?_⟩
  rw [← Bool.not_eq_true, ← harea]
  decide

/-! ### Growing -/

/-- A place lies within a margin of the rectangle in both axes: some dot of the rectangle is no
further away, neither in columns nor in rows. Places may lie outside of the coordinate range. -/
def IsWithin (r : Rect) (margin : UInt8) (column row : Int) : Prop :=
  ∃ d, r.contains d = true ∧
    |column - d.x.toNat| ≤ margin.toNat ∧ |row - d.y.toNat| ≤ margin.toNat

/-- There is room for the margin before and after the rectangle, and its sides stay 8-bit
numbers. -/
structure HasRoom (r : Rect) (margin : UInt8) : Prop where
  /-- There is room to the left. -/
  left : margin.toNat ≤ r.x.toNat
  /-- There is room above. -/
  top : margin.toNat ≤ r.y.toNat
  /-- There is room to the right. -/
  right : r.x.toNat + r.width.toNat + margin.toNat ≤ 256
  /-- There is room below. -/
  bottom : r.y.toNat + r.height.toNat + margin.toNat ≤ 256
  /-- The columns can be counted. -/
  width : r.width.toNat + 2 * margin.toNat < 256
  /-- The rows can be counted. -/
  height : r.height.toNat + 2 * margin.toNat < 256

/-- The rectangle with the margin added on every side. -/
def grown (r : Rect) (margin : UInt8) : Rect :=
  ⟨r.x - margin, r.y - margin, r.width + margin + margin, r.height + margin + margin⟩

/-- The rectangle grown by `margin` on every side. Each coordinate is an 8-bit difference, and each
side the result of two 8-bit sums. -/
def expandByParts (r : Rect) (margin : UInt8) : Option Rect := do
  let x ← sub8? r.x margin
  let y ← sub8? r.y margin
  let width ← (add8? r.width margin).bind (add8? · margin)
  let height ← (add8? r.height margin).bind (add8? · margin)
  (make x y width height).toOption

theorem add8?_bind_add8? (a b : UInt8) : (add8? a b).bind (add8? · b) =
    if a.toNat + 2 * b.toNat < 256 then some (a + b + b) else none := by
  by_cases h : a.toNat + b.toNat < 256
  · have hsum : (a + b).toNat = a.toNat + b.toNat := by
      rw [UInt8.toNat_add, Nat.mod_eq_of_lt h]
    rw [add8?_eq h, Option.bind_some, add8?, hsum, Nat.add_assoc, ← Nat.two_mul, UInt8.size]
  · rw [add8?, if_neg h, Option.bind_none, if_neg (by omega)]

theorem ite_some_bind {α β : Type} {p : Prop} [Decidable p] (a : α) (f : α → Option β) :
    (if p then some a else none).bind f = if p then f a else none := by
  split <;> rfl

/-- It is the same whether the sums are checked one by one or before anything is computed. -/
theorem expandByParts_eq (r : Rect) (margin : UInt8) :
    r.expandByParts margin = r.expand margin := by
  simp only [expandByParts, expand, add8?_bind_add8?, sub8?, Option.bind_eq_bind,
    ite_some_bind, ite_and]

/-- Along one axis, the numbers within a margin of a stretch of 8-bit numbers. -/
theorem exists_near_iff {start side m : Nat} (hside : 0 < side) (hend : start + side ≤ 256)
    {z : Int} : (∃ c : UInt8, (start ≤ c.toNat ∧ c.toNat < start + side) ∧ |z - c.toNat| ≤ m) ↔
      (start : Int) - m ≤ z ∧ z < start + side + m := by
  simp only [abs_le]
  constructor
  · rintro ⟨c, ⟨hstart, hstop⟩, hnear⟩
    omega
  · intro h
    -- the nearest number of the stretch
    let n : Nat := (max (start : Int) (min z (start + side - 1))).toNat
    have hn : (UInt8.ofNat n).toNat = n := UInt8.toNat_ofNat_of_lt' (show n < 256 by omega)
    refine ⟨UInt8.ofNat n, ?_, ?_⟩ <;> rw [hn] <;> omega

theorem isWithin_iff (h : r.IsValid) {column row : Int} : r.IsWithin margin column row ↔
    ((r.x.toNat : Int) - margin.toNat ≤ column ∧
      column < r.x.toNat + r.width.toNat + margin.toNat) ∧
    (r.y.toNat : Int) - margin.toNat ≤ row ∧ row < r.y.toNat + r.height.toNat + margin.toNat := by
  rw [← exists_near_iff h.1 h.2.2.1, ← exists_near_iff h.2.1 h.2.2.2]
  constructor
  · rintro ⟨d, hd, hcolumn, hrow⟩
    obtain ⟨hx, hy⟩ := contains_iff.1 hd
    exact ⟨⟨d.x, hx, hcolumn⟩, ⟨d.y, hy, hrow⟩⟩
  · rintro ⟨⟨x, hx, hcolumn⟩, ⟨y, hy, hrow⟩⟩
    exact ⟨⟨x, y⟩, contains_iff.2 ⟨hx, hy⟩, hcolumn, hrow⟩

section Grown

variable (hleft : margin.toNat ≤ r.x.toNat) (htop : margin.toNat ≤ r.y.toNat)
  (hwidth : r.width.toNat + 2 * margin.toNat < 256)
  (hheight : r.height.toNat + 2 * margin.toNat < 256)

include hleft htop hwidth hheight

theorem toNat_grown : (r.grown margin).x.toNat = r.x.toNat - margin.toNat ∧
    (r.grown margin).y.toNat = r.y.toNat - margin.toNat ∧
    (r.grown margin).width.toNat = r.width.toNat + 2 * margin.toNat ∧
    (r.grown margin).height.toNat = r.height.toNat + 2 * margin.toNat := by
  have hside {side : UInt8} (h : side.toNat + 2 * margin.toNat < 256) :
      (side + margin + margin).toNat = side.toNat + 2 * margin.toNat := by
    rw [UInt8.toNat_add, UInt8.toNat_add]
    omega
  exact ⟨UInt8.toNat_sub_of_le _ _ (UInt8.le_iff_toNat_le.2 hleft),
    UInt8.toNat_sub_of_le _ _ (UInt8.le_iff_toNat_le.2 htop), hside hwidth, hside hheight⟩

/-- The margin that is taken from the near edge is added twice to the side. -/
theorem isValid_grown_iff (hvalid : r.IsValid) : (r.grown margin).IsValid ↔
    r.x.toNat + r.width.toNat + margin.toNat ≤ 256 ∧
      r.y.toNat + r.height.toNat + margin.toNat ≤ 256 := by
  obtain ⟨hx, hy, hw, hh⟩ := toNat_grown hleft htop hwidth hheight
  obtain ⟨hwpos, hhpos, -, -⟩ := hvalid
  rw [IsValid, hx, hy, hw, hh]
  omega

end Grown

/-- A rectangle grows exactly if there is room for the margin. -/
theorem expand_eq_some_iff (hvalid : r.IsValid) {r' : Rect} :
    r.expand margin = some r' ↔ r.HasRoom margin ∧ r' = r.grown margin := by
  rw [expand, Option.ite_none_right_eq_some, toOption_eq_some_iff, make_eq_ok_iff,
    UInt8.le_iff_toNat_le, UInt8.le_iff_toNat_le]
  change _ ∧ r'.IsValid ∧ r' = r.grown margin ↔ _
  constructor
  · rintro ⟨⟨hleft, htop, hwidth, hheight⟩, hgrown, rfl⟩
    obtain ⟨hright, hbottom⟩ := (isValid_grown_iff hleft htop hwidth hheight hvalid).1 hgrown
    exact ⟨⟨hleft, htop, hright, hbottom, hwidth, hheight⟩, rfl⟩
  · rintro ⟨⟨hleft, htop, hright, hbottom, hwidth, hheight⟩, rfl⟩
    exact ⟨⟨hleft, htop, hwidth, hheight⟩,
      (isValid_grown_iff hleft htop hwidth hheight hvalid).2 ⟨hright, hbottom⟩, rfl⟩

/-- Some place within the margin of the rectangle lies outside of the coordinate range. -/
def LeavesRange (r : Rect) (margin : UInt8) : Prop :=
  ∃ column row : Int, r.IsWithin margin column row ∧
    ¬((0 ≤ column ∧ column ≤ 255) ∧ 0 ≤ row ∧ row ≤ 255)

theorem leavesRange_iff (hvalid : r.IsValid) : r.LeavesRange margin ↔
    ¬(margin.toNat ≤ r.x.toNat ∧ margin.toNat ≤ r.y.toNat ∧
      r.x.toNat + r.width.toNat + margin.toNat ≤ 256 ∧
      r.y.toNat + r.height.toNat + margin.toNat ≤ 256) := by
  have hvalid' := hvalid
  obtain ⟨hwpos, hhpos, hright, hlower⟩ := hvalid
  simp only [LeavesRange, isWithin_iff hvalid']
  constructor
  · rintro ⟨column, row, hwithin, hout⟩
    omega
  · intro hroom
    -- one of the corners of the grown rectangle lies outside
    by_cases hnear : margin.toNat ≤ r.x.toNat ∧ margin.toNat ≤ r.y.toNat
    · refine ⟨r.x.toNat + r.width.toNat + margin.toNat - 1,
        r.y.toNat + r.height.toNat + margin.toNat - 1, ?_, ?_⟩ <;> omega
    · refine ⟨r.x.toNat - margin.toNat, r.y.toNat - margin.toNat, ?_, ?_⟩ <;> omega

/-- Growing is refused where a place within the margin lies outside of the coordinate range, and
where a side comes to span all of the range. -/
theorem expand_eq_none_iff (hvalid : r.IsValid) : r.expand margin = none ↔
    r.LeavesRange margin ∨ r.width.toNat + 2 * margin.toNat = 256 ∨
      r.height.toNat + 2 * margin.toNat = 256 := by
  rw [Option.eq_none_iff_forall_ne_some, leavesRange_iff hvalid]
  simp only [ne_eq, expand_eq_some_iff hvalid, not_and]
  constructor
  · intro h
    by_contra hroom
    exact h _ ⟨by omega, by omega, by omega, by omega, by omega, by omega⟩ rfl
  · rintro h r' ⟨hleft, htop, hright, hbottom, hwidth, hheight⟩
    omega

/-- The grown rectangle contains the dots within the margin. -/
theorem contains_of_expand_eq_some (hvalid : r.IsValid) {r' : Rect}
    (h : r.expand margin = some r') :
    r'.contains d = true ↔ r.IsWithin margin d.x.toNat d.y.toNat := by
  obtain ⟨⟨hleft, htop, hright, hbottom, hwidth, hheight⟩, rfl⟩ := (expand_eq_some_iff hvalid).1 h
  obtain ⟨hx, hy, hw, hh⟩ := toNat_grown hleft htop hwidth hheight
  rw [contains_iff, isWithin_iff hvalid, hx, hy, hw, hh]
  omega

/-- **Growing a rectangle.** The sums and differences may be checked one by one. A rectangle that
the constructor accepts does not grow by a margin exactly if a place within the margin lies outside
of the coordinate range, or a side would have all of its 256 places. Otherwise the result is a
rectangle that the constructor accepts, and it has exactly the dots within the margin in both
axes. -/
theorem expand_exactly {x y width height : UInt8} (h : make x y width height = .ok r)
    (margin : UInt8) :
    r.expandByParts margin = r.expand margin ∧
    (r.expand margin = none ↔
      r.LeavesRange margin ∨ r.width.toNat + 2 * margin.toNat = 256 ∨
        r.height.toNat + 2 * margin.toNat = 256) ∧
    ∀ r', r.expand margin = some r' →
      make r'.x r'.y r'.width r'.height = .ok r' ∧
        ∀ d, r'.contains d = true ↔ r.IsWithin margin d.x.toNat d.y.toNat := by
  obtain ⟨hvalid, -⟩ := make_eq_ok_iff.1 h
  refine ⟨r.expandByParts_eq margin, expand_eq_none_iff hvalid, fun r' hr' => ⟨?_, fun d => ?_⟩⟩
  · obtain ⟨⟨hleft, htop, hright, hbottom, hwidth, hheight⟩, rfl⟩ :=
      (expand_eq_some_iff hvalid).1 hr'
    exact make_eq_ok_iff.2
      ⟨(isValid_grown_iff hleft htop hwidth hheight hvalid).2 ⟨hright, hbottom⟩, rfl⟩
  · exact contains_of_expand_eq_some hvalid hr'

/-- A row of 254 dots may keep one column free at either end of the coordinate range. With a margin
of one it covers all of the range and leaves it nowhere, and yet does not grow. -/
theorem expand_refuses_full_side : make 1 1 254 1 = .ok ⟨1, 1, 254, 1⟩ ∧
    (Rect.mk 1 1 254 1).expand 1 = none ∧ ¬(Rect.mk 1 1 254 1).LeavesRange 1 := by
  have hvalid : (Rect.mk 1 1 254 1).IsValid := by decide
  refine ⟨rfl, by decide, ?_⟩
  rw [leavesRange_iff hvalid]
  decide

/-- With a margin of two, a rectangle reaches the near edges and the last but one column; with a
margin of three it would leave the coordinate range. -/
theorem expand_exactly_to_edges : make 2 2 251 4 = .ok ⟨2, 2, 251, 4⟩ ∧
    (Rect.mk 2 2 251 4).expand 2 = some ⟨0, 0, 255, 8⟩ ∧
    make 0 0 255 8 = .ok ⟨0, 0, 255, 8⟩ ∧
    (Rect.mk 2 2 251 4).IsWithin 2 254 7 ∧ ¬(Rect.mk 2 2 251 4).IsWithin 2 255 7 ∧
    (Rect.mk 2 2 251 4).LeavesRange 3 := by
  have hmake : make 2 2 251 4 = .ok ⟨2, 2, 251, 4⟩ := by rfl
  have hgrown : (Rect.mk 2 2 251 4).expand 2 = some ⟨0, 0, 255, 8⟩ := by decide
  obtain ⟨-, -, hdots⟩ := expand_exactly hmake 2
  obtain ⟨-, hnone, -⟩ := expand_exactly hmake 3
  obtain ⟨haccepted, hwithin⟩ := hdots _ hgrown
  refine ⟨hmake, hgrown, haccepted, (hwithin ⟨254, 7⟩).1 (by decide), fun h => ?_, ?_⟩
  · exact absurd ((hwithin ⟨255, 7⟩).2 h) (by decide)
  · exact (hnone.1 (by decide)).resolve_right (by decide)

end Rect

end ClaimGrid
