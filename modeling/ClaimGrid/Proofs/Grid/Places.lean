import Mathlib.Data.List.Nodup
import Mathlib.Data.List.Perm.Subperm
import ClaimGrid.Grid.Sampling

/-!
# Where rectangles and stamps lie

A rectangle inside an area has all of its dots inside. So has its inner part within a margin, and so
has a mask that is stamped at the corner of a rectangle of its size: no coordinate runs past the far
edges.

## Main results

* `Rect.mem_location`, `Mask.exists_of_mem_location`: the dots of rectangles and of stamps.
* `Rect.nodup_location`: a rectangle lists each of its dots once.
* `Area.contains_of_mem_rect`, `Area.contains_of_mem_stamp`: they lie inside with the rectangle.
* `Area.length_le_size`: an area holds no more dots than its size.
* `Area.of_randomRect_eq_ok`: a rectangle that was drawn has the size asked for and lies inside.
-/

namespace ClaimGrid

/-- A sum that is an 8-bit number is found without wrapping. -/
theorem toNat_add_ofNat {x : UInt8} {n : Nat} (h : x.toNat + n < 256) :
    (x + UInt8.ofNat n).toNat = x.toNat + n := by
  rw [UInt8.toNat_add, UInt8.toNat_ofNat']
  omega

theorem Location.forall_mem_of_containsLocation {area : Area} {l : Location}
    (h : area.containsLocation l = true) {d : Dot} (hd : d ∈ l) : area.contains d = true :=
  List.all_eq_true.1 h d hd

namespace Rect

/-- The dots of a rectangle lie less than a side away from its corner. -/
theorem mem_location {r : Rect} {d : Dot} :
    d ∈ r.location ↔ ∃ dy < r.height.toNat, ∃ dx < r.width.toNat,
      (⟨r.x + UInt8.ofNat dx, r.y + UInt8.ofNat dy⟩ : Dot) = d := by
  simp only [Location.mem_def, location, List.mem_flatMap, List.mem_map, List.mem_range]

/-- A rectangle in the coordinate range has the dots between its edges. -/
theorem mem_location_iff {r : Rect} (hright : r.x.toNat + r.width.toNat ≤ 256)
    (hlower : r.y.toNat + r.height.toNat ≤ 256) {d : Dot} :
    d ∈ r.location ↔
      (r.x.toNat ≤ d.x.toNat ∧ d.x.toNat < r.x.toNat + r.width.toNat) ∧
        r.y.toNat ≤ d.y.toNat ∧ d.y.toNat < r.y.toNat + r.height.toNat := by
  rw [mem_location]
  constructor
  · rintro ⟨dy, hdy, dx, hdx, rfl⟩
    rw [toNat_add_ofNat (by omega), toNat_add_ofNat (by omega)]
    omega
  · rintro ⟨⟨hx, hx'⟩, hy, hy'⟩
    refine ⟨d.y.toNat - r.y.toNat, by omega, d.x.toNat - r.x.toNat, by omega, ?_⟩
    have hdx := toNat_add_ofNat (x := r.x) (n := d.x.toNat - r.x.toNat) (by omega)
    have hdy := toNat_add_ofNat (x := r.y) (n := d.y.toNat - r.y.toNat) (by omega)
    obtain ⟨x, y⟩ := d
    rw [Dot.mk.injEq, ← UInt8.toNat_inj, ← UInt8.toNat_inj, hdx, hdy]
    exact ⟨Nat.add_sub_cancel' hx, Nat.add_sub_cancel' hy⟩

theorem size_location (r : Rect) : r.location.size = r.width.toNat * r.height.toNat := by
  simp only [Location.size, location, List.length_flatMap, List.length_map, List.length_range,
    List.map_const', List.sum_replicate_nat]
  exact Nat.mul_comm ..

/-- A rectangle in the coordinate range lists each of its dots once. -/
theorem nodup_location {r : Rect} (hright : r.x.toNat + r.width.toNat ≤ 256)
    (hlower : r.y.toNat + r.height.toNat ≤ 256) : r.location.dots.Nodup := by
  have hinj {start : UInt8} {side n n' : Nat} (hrange : start.toNat + side ≤ 256) (hn : n < side)
      (hn' : n' < side) (h : start + UInt8.ofNat n = start + UInt8.ofNat n') : n = n' := by
    have hnat := congrArg UInt8.toNat h
    rw [toNat_add_ofNat (by omega), toNat_add_ofNat (by omega)] at hnat
    omega
  refine List.nodup_flatMap.2 ⟨fun dy _ => ?_, ?_⟩
  · refine List.Nodup.map_on (fun dx hdx dx' hdx' h => ?_) List.nodup_range
    exact hinj hright (List.mem_range.1 hdx) (List.mem_range.1 hdx') (Dot.mk.inj h).1
  · -- dots of two rows differ in their row
    refine List.nodup_range.imp_of_mem fun {dy dy'} hdy hdy' hne d hd hd' => hne ?_
    obtain ⟨dx, -, rfl⟩ := List.mem_map.1 hd
    obtain ⟨dx', -, h⟩ := List.mem_map.1 hd'
    exact hinj hlower (List.mem_range.1 hdy) (List.mem_range.1 hdy') (Dot.mk.inj h).2.symm

end Rect

namespace Mask

theorem shift?_eq_some {start c : UInt8} {offset : Nat} (h : shift? start offset = some c) :
    c.toNat = start.toNat + offset := by
  rw [shift?] at h
  split at h
  · rename_i hlt
    obtain rfl := Option.some.inj h
    exact UInt8.toNat_ofNat_of_lt' hlt
  · cases h

theorem exists_of_mem_stampRow {x y : UInt8} {row : List UInt8} {d : Dot}
    (hd : d ∈ stampRow x y row) : ∃ dx < row.length, d.x.toNat = x.toNat + dx ∧ d.y = y := by
  obtain ⟨⟨cell, dx⟩, hcell, hdot⟩ := List.mem_filterMap.1 hd
  dsimp only at hdot
  split at hdot
  · cases hdot
  · obtain ⟨column, hcolumn, rfl⟩ := Option.map_eq_some_iff.1 hdot
    exact ⟨dx, List.snd_lt_of_mem_zipIdx hcell, shift?_eq_some hcolumn, rfl⟩

/-- The dots of a stamp lie less than a side of the mask away from its corner. -/
theorem exists_of_mem_location {m : Mask} {corner d : Dot} (hd : d ∈ m.location corner) :
    ∃ dx < m.columns, ∃ dy < m.rows.length,
      d.x.toNat = corner.x.toNat + dx ∧ d.y.toNat = corner.y.toNat + dy := by
  obtain ⟨⟨row, dy⟩, hrow, hd⟩ := List.mem_flatMap.1 hd
  dsimp only at hd
  split at hd
  · rename_i y hy
    obtain ⟨dx, hdx, hx, rfl⟩ := exists_of_mem_stampRow hd
    rw [m.rectangular row (List.fst_mem_of_mem_zipIdx hrow)] at hdx
    exact ⟨dx, hdx, dy, List.snd_lt_of_mem_zipIdx hrow, hx, shift?_eq_some hy⟩
  · cases hd

theorem toNat_width (m : Mask) : m.width.toNat = m.columns :=
  UInt8.toNat_ofNat_of_lt' m.columns_lt

theorem toNat_height (m : Mask) : m.height.toNat = m.rows.length :=
  UInt8.toNat_ofNat_of_lt' m.rows_lt

end Mask

namespace Area

variable {area : Area}

theorem contains_iff {d : Dot} :
    area.contains d = true ↔ d.x.toNat < area.width.toNat ∧ d.y.toNat < area.height.toNat := by
  rw [contains, Bool.and_eq_true, decide_eq_true_eq, decide_eq_true_eq, UInt8.lt_iff_toNat_lt,
    UInt8.lt_iff_toNat_lt]

theorem containsRect_iff {r : Rect} :
    area.containsRect r = true ↔ r.x.toNat + r.width.toNat ≤ area.width.toNat ∧
      r.y.toNat + r.height.toNat ≤ area.height.toNat := by
  rw [containsRect, Bool.and_eq_true, decide_eq_true_eq, decide_eq_true_eq]

/-- The dots of a rectangle inside an area lie inside. -/
theorem contains_of_mem_rect {r : Rect} (h : area.containsRect r = true) {d : Dot}
    (hd : d ∈ r.location) : area.contains d = true := by
  obtain ⟨hw, hh⟩ := containsRect_iff.1 h
  have hwidth := area.width.toNat_lt
  have hheight := area.height.toNat_lt
  obtain ⟨dy, hdy, dx, hdx, rfl⟩ := Rect.mem_location.1 hd
  rw [contains_iff, toNat_add_ofNat (by omega), toNat_add_ofNat (by omega)]
  omega

/-- A mask that is stamped at the corner of a rectangle of its size stays inside with it. -/
theorem contains_of_mem_stamp {r : Rect} {m : Mask} (h : area.containsRect r = true)
    (hw : r.width = m.width) (hh : r.height = m.height) {d : Dot}
    (hd : d ∈ m.location r.origin) : area.contains d = true := by
  obtain ⟨hright, hlower⟩ := containsRect_iff.1 h
  rw [hw, m.toNat_width] at hright
  rw [hh, m.toNat_height] at hlower
  obtain ⟨dx, hdx, dy, hdy, hx, hy⟩ := Mask.exists_of_mem_location hd
  rw [contains_iff, hx, hy]
  change r.x.toNat + dx < _ ∧ r.y.toNat + dy < _
  omega

/-- The rectangle that covers the area. -/
def field (a : Area) : Rect := ⟨0, 0, a.width, a.height⟩

theorem mem_location_field {d : Dot} (hd : area.contains d = true) :
    d ∈ area.field.location := by
  obtain ⟨hx, hy⟩ := contains_iff.1 hd
  refine Rect.mem_location.2 ⟨d.y.toNat, hy, d.x.toNat, hx, ?_⟩
  rw [field, UInt8.ofNat_toNat, UInt8.ofNat_toNat, UInt8.zero_add, UInt8.zero_add]

/-- There are no more dots inside than the area has. -/
theorem length_le_size {ds : List Dot} (hnodup : ds.Nodup)
    (h : ∀ d ∈ ds, area.contains d = true) : ds.length ≤ area.size := by
  have hsub : ds ⊆ area.field.location.dots := fun d hd => mem_location_field (h d hd)
  calc ds.length ≤ area.field.location.size := (hnodup.subperm hsub).length_le
    _ = area.size := area.field.size_location

/-- A rectangle that was drawn has the size asked for and lies inside. -/
theorem of_randomRect_eq_ok {width height : UInt8} {s : WordStream} {r : Rect}
    (h : (area.randomRect width height s).1 = .ok r) :
    r.width = width ∧ r.height = height ∧ area.containsRect r = true := by
  by_cases hfits : width = 0 ∨ height = 0 ∨ area.width < width ∨ area.height < height
  · obtain ⟨e, he⟩ := randomRect_of_not_fits hfits
    rw [he] at h
    cases h
  · simp only [not_or, UInt8.not_lt] at hfits
    obtain ⟨hw, hh, hwa, hha⟩ := hfits
    obtain ⟨r', t, hr, hsides⟩ := randomRect_of_fits hw hh hwa hha s
    rw [hr] at h
    obtain rfl := Except.ok.inj h
    exact hsides

end Area

end ClaimGrid
