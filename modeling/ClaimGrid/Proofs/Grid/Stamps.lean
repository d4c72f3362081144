import ClaimGrid.Proofs.Grid.Checked
import ClaimGrid.Proofs.Grid.Transforms

/-!
# Stamps

A stamp has a dot for each set cell of the mask that does not fall off the coordinate range, and it
lists them row by row. Distinct cells fall on distinct dots, so the same location comes about when
the dots are added one at a time and a dot that is listed already is left out: none ever is. Where
nothing falls off, the stamps of a mask and of its turns and mirror images are images of each other.

## Main definitions

* `Dot.offset?`, `Dot.offset`: the dot at an offset from a corner.
* `Mask.Unclipped`: no set cell falls off the coordinate range.
* `Mask.locationByAdding`: a stamp whose dots are added one at a time.
* `Mask.carryDot`: where a transform carries a dot of a stamp.

## Main results

* `Mask.dots_location`: a stamp in terms of the set cells.
* `Mask.locationByAdding_eq`: no dot is left out.
* `Mask.size_location_eq_count_iff`: a stamp is complete exactly if no set cell is clipped.
* `Mask.stamps_exactly`: which dots a stamp has, in which order, and how stamps are turned.
-/

namespace ClaimGrid

theorem Mask.shift?_eq_some_iff {start c : UInt8} {n : Nat} :
    shift? start n = some c ↔ c.toNat = start.toNat + n := by
  refine ⟨shift?_eq_some, fun h => ?_⟩
  have hlt : start.toNat + n < 256 := h ▸ c.toNat_lt
  rw [shift?, if_pos hlt, ← h, UInt8.ofNat_toNat]

namespace Dot

/-- The dot that lies so many columns and rows after a corner, if both of its coordinates are 8-bit
numbers. -/
def offset? (corner : Dot) (p : Nat × Nat) : Option Dot := do
  let x ← Mask.shift? corner.x p.1
  let y ← Mask.shift? corner.y p.2
  return ⟨x, y⟩

/-- The dot that lies so many columns and rows after a corner. -/
def offset (corner : Dot) (p : Nat × Nat) : Dot :=
  ⟨corner.x + UInt8.ofNat p.1, corner.y + UInt8.ofNat p.2⟩

variable {corner d : Dot} {p : Nat × Nat}

theorem offset?_eq_some_iff : corner.offset? p = some d ↔
    d.x.toNat = corner.x.toNat + p.1 ∧ d.y.toNat = corner.y.toNat + p.2 := by
  rw [← Mask.shift?_eq_some_iff, ← Mask.shift?_eq_some_iff, offset?]
  obtain ⟨x, y⟩ := d
  cases Mask.shift? corner.x p.1 <;> cases Mask.shift? corner.y p.2 <;> simp

theorem offset?_eq_offset (hx : corner.x.toNat + p.1 ≤ 255) (hy : corner.y.toNat + p.2 ≤ 255) :
    corner.offset? p = some (corner.offset p) := by
  rw [offset?_eq_some_iff, offset, toNat_add_ofNat (by omega), toNat_add_ofNat (by omega)]
  exact ⟨rfl, rfl⟩

theorem isSome_offset?_iff : (corner.offset? p).isSome = true ↔
    corner.x.toNat + p.1 ≤ 255 ∧ corner.y.toNat + p.2 ≤ 255 := by
  refine ⟨fun h => ?_, fun h => by rw [offset?_eq_offset h.1 h.2]; rfl⟩
  obtain ⟨d, hd⟩ := Option.isSome_iff_exists.1 h
  obtain ⟨hx, hy⟩ := offset?_eq_some_iff.1 hd
  have hxlt := d.x.toNat_lt
  have hylt := d.y.toNat_lt
  omega

end Dot

/-- Dots that are added one at a time are all listed if none of them is listed twice. -/
theorem Location.foldl_add {l : Location} {ds : List Dot} (h : (l.dots ++ ds).Nodup) :
    ds.foldl (fun l d => (l.add d).2) l = ⟨l.dots ++ ds⟩ := by
  induction ds generalizing l with
  | nil => rw [List.foldl_nil, List.append_nil]
  | cons d ds ih =>
    have hnew : l.contains d = false := by
      rw [← Bool.not_eq_true, contains_iff, mem_def]
      intro hd
      exact (List.nodup_append.1 h).2.2 d hd d List.mem_cons_self rfl
    have hadd : (l.add d).2 = ⟨l.dots ++ [d]⟩ := by
      rw [add, hnew]
      rfl
    rw [List.foldl_cons, hadd, ih (by simpa using h), List.append_assoc, List.singleton_append]

namespace Mask

variable {m : Mask} {corner d : Dot} {f : Transform}

/-- No set cell falls off the coordinate range. -/
def Unclipped (m : Mask) (corner : Dot) : Prop :=
  ∀ x y, m.cell x y ≠ 0 → corner.x.toNat + x ≤ 255 ∧ corner.y.toNat + y ≤ 255

theorem unclipped_iff : m.Unclipped corner ↔
    ∀ p ∈ m.setCells, corner.x.toNat + p.1 ≤ 255 ∧ corner.y.toNat + p.2 ≤ 255 :=
  ⟨fun h p hp => h p.1 p.2 (mem_setCells.1 hp), fun h x y hxy => h (x, y) (mem_setCells.2 hxy)⟩

instance (m : Mask) (corner : Dot) : Decidable (m.Unclipped corner) :=
  decidable_of_iff' _ unclipped_iff

/-! ### The dots of a stamp -/

/-- A stamp has the dots at the offsets of the set cells, in the same order. -/
theorem dots_location (m : Mask) (corner : Dot) :
    (m.location corner).dots = m.setCells.filterMap corner.offset? := by
  rw [location, setCells, List.filterMap_flatMap]
  refine congrArg m.rows.zipIdx.flatMap (funext fun p => ?_)
  obtain ⟨row, y⟩ := p
  dsimp only
  rw [List.filterMap_filterMap]
  cases hy : shift? corner.y y with
  | none =>
    symm
    refine List.filterMap_eq_nil_iff.2 fun p _ => ?_
    obtain ⟨c, x⟩ := p
    by_cases hc : c = 0 <;> simp [hc, Dot.offset?, hy]
  | some y' =>
    refine List.filterMap_congr fun p _ => ?_
    obtain ⟨c, x⟩ := p
    by_cases hc : c = 0
    · simp [hc]
    · cases hx : shift? corner.x x <;> simp [hc, Dot.offset?, hx, hy]

theorem mem_location_iff : d ∈ m.location corner ↔
    ∃ x y, m.cell x y ≠ 0 ∧ d.x.toNat = corner.x.toNat + x ∧ d.y.toNat = corner.y.toNat + y := by
  rw [Location.mem_def, dots_location, List.mem_filterMap]
  constructor
  · rintro ⟨p, hp, hd⟩
    exact ⟨p.1, p.2, mem_setCells.1 hp, Dot.offset?_eq_some_iff.1 hd⟩
  · rintro ⟨x, y, hxy, hd⟩
    exact ⟨(x, y), mem_setCells.2 hxy, Dot.offset?_eq_some_iff.2 hd⟩

/-- A stamp is listed row by row, and each row from left to right. -/
theorem pairwise_location (m : Mask) (corner : Dot) :
    (m.location corner).dots.Pairwise fun d d' => d.y < d'.y ∨ d.y = d'.y ∧ d.x < d'.x := by
  rw [dots_location, List.pairwise_filterMap]
  refine m.pairwise_setCells.imp fun hbefore d hd d' hd' => ?_
  obtain ⟨hx, hy⟩ := Dot.offset?_eq_some_iff.1 hd
  obtain ⟨hx', hy'⟩ := Dot.offset?_eq_some_iff.1 hd'
  rw [UInt8.lt_iff_toNat_lt, UInt8.lt_iff_toNat_lt, ← UInt8.toNat_inj, hx, hy, hx', hy']
  exact hbefore.imp (Nat.add_lt_add_left · _) fun h =>
    ⟨congrArg _ h.1, Nat.add_lt_add_left h.2 _⟩

theorem nodup_location (m : Mask) (corner : Dot) : (m.location corner).dots.Nodup :=
  (m.pairwise_location corner).imp fun h => by
    rintro rfl
    exact h.elim (UInt8.lt_irrefl _) fun h => UInt8.lt_irrefl _ h.2

/-- A stamp has as many dots as the mask has set cells exactly if none of them is clipped. -/
theorem size_location_eq_count_iff :
    (m.location corner).size = m.count ↔ m.Unclipped corner := by
  rw [Location.size, dots_location, List.length_filterMap_eq_countP, ← length_setCells,
    List.countP_eq_length, unclipped_iff]
  exact forall₂_congr fun p _ => Dot.isSome_offset?_iff

/-! ### Stamping by adding -/

/-- The dots of the set cells, added one at a time unless they are listed already. The number of a
column or row is narrowed to an 8-bit number before it is added to the corner. -/
def locationByAdding (m : Mask) (corner : Dot) : Location :=
  m.rows.zipIdx.foldl (fun l (row, dy) =>
    row.zipIdx.foldl (fun l (cell, dx) =>
      if cell = 0 then l
      else
        match (narrow8? dx).bind (add8? corner.x), (narrow8? dy).bind (add8? corner.y) with
        | some x, some y => (l.add ⟨x, y⟩).2
        | _, _ => l) l) .empty

theorem narrow8?_bind_add8? (start : UInt8) (n : Nat) :
    (narrow8? n).bind (add8? start) = shift? start n := by
  by_cases h : start.toNat + n < 256
  · have hn : (UInt8.ofNat n).toNat = n := UInt8.toNat_ofNat_of_lt' (show n < 256 by omega)
    rw [narrow8?_eq (by omega), Option.bind_some, add8?_eq (by rw [hn]; exact h), shift?, if_pos h,
      UInt8.ofNat_add, UInt8.ofNat_toNat]
  · rw [shift?, if_neg h]
    refine Option.bind_eq_none_iff.2 fun c hc => if_neg ?_
    obtain ⟨hlt, hc⟩ := Option.ite_none_right_eq_some.1 hc
    obtain rfl := Option.some.inj hc
    rwa [UInt8.toNat_ofNat_of_lt' hlt]

/-- No dot of a stamp is left out when the dots are added one at a time. -/
theorem locationByAdding_eq (m : Mask) (corner : Dot) :
    m.locationByAdding corner = m.location corner := by
  calc m.locationByAdding corner
      = (m.setCells.filterMap corner.offset?).foldl (fun l d => (l.add d).2) .empty := by
        rw [List.foldl_filterMap, setCells, List.foldl_flatMap, locationByAdding]
        congr 1
        funext l p
        obtain ⟨row, dy⟩ := p
        dsimp only
        rw [List.foldl_filterMap]
        congr 1
        funext l p
        obtain ⟨c, dx⟩ := p
        simp only [narrow8?_bind_add8?]
        by_cases hc : c = 0
        · simp [hc]
        · cases hx : shift? corner.x dx <;> cases hy : shift? corner.y dy <;>
            simp [hc, Dot.offset?, hx, hy]
    _ = m.location corner := by
        rw [← dots_location]
        exact Location.foldl_add (l := .empty) (m.nodup_location corner)

/-! ### Stamps of transforms -/

/-- The dot of a stamp to which a transform of the mask carries another one. -/
def carryDot (m : Mask) (corner : Dot) (f : Transform) (d : Dot) : Dot :=
  corner.offset (m.carry f (d.x.toNat - corner.x.toNat, d.y.toNat - corner.y.toNat))

theorem dots_location_of_unclipped (h : m.Unclipped corner) :
    (m.location corner).dots = m.setCells.map corner.offset := by
  rw [dots_location, List.filterMap_eq_map_iff_forall_eq_some]
  intro p hp
  obtain ⟨hx, hy⟩ := unclipped_iff.1 h p hp
  exact Dot.offset?_eq_offset hx hy

/-- If nothing is clipped, the stamp of the image has the dots of the stamp, each carried to its
place. -/
theorem perm_location (h : m.Unclipped corner) (hf : (m.transformed f).Unclipped corner) :
    ((m.transformed f).location corner).dots.Perm
      ((m.location corner).dots.map (m.carryDot corner f)) := by
  have hcarry : ∀ p ∈ m.setCells,
      corner.offset (m.carry f p) = m.carryDot corner f (corner.offset p) := by
    intro p hp
    obtain ⟨hx, hy⟩ := unclipped_iff.1 h p hp
    have hdx : (corner.offset p).x.toNat - corner.x.toNat = p.1 := by
      rw [Dot.offset, toNat_add_ofNat (by omega), Nat.add_sub_cancel_left]
    have hdy : (corner.offset p).y.toNat - corner.y.toNat = p.2 := by
      rw [Dot.offset, toNat_add_ofNat (by omega), Nat.add_sub_cancel_left]
    rw [carryDot, hdx, hdy]
  have hdots : (m.location corner).dots.map (m.carryDot corner f) =
      (m.setCells.map (m.carry f)).map corner.offset := by
    rw [dots_location_of_unclipped h, List.map_map, List.map_map]
    exact (List.map_congr_left hcarry).symm
  rw [dots_location_of_unclipped hf, hdots]
  exact (perm_setCells m f).map corner.offset

/-- A stamp has exactly the dots of the set cells that stay in the coordinate range, row by row and
each once, and so it comes about when they are added one at a time. It has as many dots as the mask
has set cells exactly if no set cell is clipped. If nothing is clipped in the stamp of a mask and in
that of its image under a transform, at the same corner, then the transform carries the dots of the
one to those of the other. -/
theorem stamps_exactly (m : Mask) (corner : Dot) :
    m.locationByAdding corner = m.location corner ∧
    (∀ d, d ∈ m.location corner ↔ ∃ dx dy, m.cell dx dy ≠ 0 ∧
      corner.x.toNat + dx ≤ 255 ∧ corner.y.toNat + dy ≤ 255 ∧
      d.x.toNat = corner.x.toNat + dx ∧ d.y.toNat = corner.y.toNat + dy) ∧
    ((m.location corner).dots.Pairwise fun d d' => d.y < d'.y ∨ d.y = d'.y ∧ d.x < d'.x) ∧
    (m.location corner).dots.Nodup ∧
    ((m.location corner).size = m.count ↔ m.Unclipped corner) ∧
    ∀ f, m.Unclipped corner → (m.transformed f).Unclipped corner →
      ((m.transformed f).location corner).dots.Perm
        ((m.location corner).dots.map (m.carryDot corner f)) := by
  refine ⟨m.locationByAdding_eq corner, fun d => ?_, m.pairwise_location corner,
    m.nodup_location corner, size_location_eq_count_iff, fun f => perm_location⟩
  have hx := d.x.toNat_lt
  have hy := d.y.toNat_lt
  rw [mem_location_iff]
  refine exists₂_congr fun dx dy => and_congr_right fun _ => ⟨fun hd => ?_, fun hd => hd.2.2⟩
  omega

/-- In the farthest corner of the coordinate range a walled yard and its turn to the right just fit,
and the dots of the one are those of the other, turned. -/
theorem stamps_exactly_in_corner :
    home.Unclipped ⟨251, 251⟩ ∧ home.turnRight.Unclipped ⟨251, 251⟩ ∧
      (home.turnRight.location ⟨251, 251⟩).dots.Perm
        ((home.location ⟨251, 251⟩).dots.map (home.carryDot ⟨251, 251⟩ .turnRight)) :=
  have hhome : home.Unclipped ⟨251, 251⟩ := by decide
  have hturned : home.turnRight.Unclipped ⟨251, 251⟩ := by decide
  ⟨hhome, hturned, (stamps_exactly home ⟨251, 251⟩).2.2.2.2.2 .turnRight hhome hturned⟩

end Mask

end ClaimGrid
