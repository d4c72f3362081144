import Mathlib.Algebra.BigOperators.Group.List.Basic
import Mathlib.Algebra.Group.Prod
import Mathlib.Algebra.Ring.Int.Defs
import ClaimGrid.Proofs.Grid.Checked

/-!
# Walks on the torus

The opposite edges of an area are joined, which makes it a torus, and a leg of a walk displaces
every dot by the same number of columns and rows. Where a walk ends depends only on the sum of these
displacements: its legs may be taken in any order, and the legs taken backwards lead back.

## Main definitions

* `Leg`, `netDisplacement`, `retrace`: walks, how far they lead in all, and the way back.
* `Area.walk`: the dot that a walk leads to.
* `ringPlace`, `Area.translate`: a coordinate reduced to a place on a ring, and a dot displaced on
  the torus.
* `Leg.Spans`: a leg leads from one dot of a line to another.

## Main results

* `Area.navigate_eq_translate`, `Area.walk_eq_translate`: a leg is a translation, and so is a walk.
* `exists_spans`: one leg leads from a dot to any other one on a line with it.
* `Area.walk_on_torus`: where walks end, and how to walk to a dot on the same line.
-/

namespace ClaimGrid

/-! ### Walks -/

/-- A leg of a walk: so many steps in one direction. -/
structure Leg where
  /-- Where to go. -/
  direction : Direction
  /-- How many steps. -/
  distance : UInt8

namespace Leg

/-- The columns and rows that a leg leads on. Rows are counted southwards. -/
def displacement (leg : Leg) : Int × Int :=
  match leg.direction with
  | .north => (0, -leg.distance.toNat)
  | .east => (leg.distance.toNat, 0)
  | .south => (0, leg.distance.toNat)
  | .west => (-leg.distance.toNat, 0)

/-- As many steps the opposite way. -/
def back (leg : Leg) : Leg := ⟨leg.direction.reverse, leg.distance⟩

theorem displacement_back (leg : Leg) : leg.back.displacement = -leg.displacement := by
  obtain ⟨direction, distance⟩ := leg
  cases direction <;> simp [back, displacement, Direction.reverse]

end Leg

/-- The columns and rows that a walk leads on in all. -/
def netDisplacement (legs : List Leg) : Int × Int := (legs.map Leg.displacement).sum

/-- The way back: the legs in opposite order, each the opposite way. -/
def retrace (legs : List Leg) : List Leg := legs.reverse.map Leg.back

theorem netDisplacement_cons (leg : Leg) (legs : List Leg) :
    netDisplacement (leg :: legs) = leg.displacement + netDisplacement legs :=
  List.sum_cons

theorem netDisplacement_perm {legs legs' : List Leg} (h : legs'.Perm legs) :
    netDisplacement legs' = netDisplacement legs :=
  (h.map Leg.displacement).sum_eq

theorem netDisplacement_retrace (legs : List Leg) :
    netDisplacement (retrace legs) = -netDisplacement legs := by
  have hperm : (retrace legs).Perm (legs.map Leg.back) := legs.reverse_perm.map Leg.back
  rw [netDisplacement_perm hperm]
  clear hperm
  induction legs with
  | nil => rfl
  | cons leg legs ih =>
    rw [List.map_cons, netDisplacement_cons, netDisplacement_cons, ih, Leg.displacement_back,
      neg_add]

/-! ### Translations -/

/-- The place that a number is reduced to on a ring of `side` places. -/
def ringPlace (side : UInt8) (z : Int) : UInt8 := UInt8.ofNat (z % side.toNat).toNat

section Ring

variable {coord side : UInt8} {z w : Int}

theorem toNat_ringPlace (hside : 0 < side.toNat) (z : Int) :
    ((ringPlace side z).toNat : Int) = z % side.toNat := by
  have hlt := side.toNat_lt
  have hnonneg : 0 ≤ z % side.toNat := Int.emod_nonneg z (by omega)
  have hmod : z % side.toNat < side.toNat := Int.emod_lt_of_pos z (by omega)
  rw [ringPlace, UInt8.toNat_ofNat_of_lt' (show (z % side.toNat).toNat < 256 by omega)]
  exact Int.toNat_of_nonneg hnonneg

theorem ringPlace_lt (hside : 0 < side.toNat) (z : Int) :
    (ringPlace side z).toNat < side.toNat := by
  have hmod : z % side.toNat < side.toNat := Int.emod_lt_of_pos z (by omega)
  rw [← toNat_ringPlace hside] at hmod
  exact Int.ofNat_lt.1 hmod

theorem ringPlace_eq_iff (hside : 0 < side.toNat) :
    ringPlace side z = ringPlace side w ↔ z % side.toNat = w % side.toNat := by
  rw [← toNat_ringPlace hside, ← toNat_ringPlace hside, Int.natCast_inj, UInt8.toNat_inj]

/-- A displacement may be added before or after a number is reduced. -/
theorem ringPlace_add (hside : 0 < side.toNat) (z w : Int) :
    ringPlace side ((ringPlace side z).toNat + w) = ringPlace side (z + w) := by
  rw [ringPlace_eq_iff hside, toNat_ringPlace hside, Int.emod_add_emod]

theorem ringPlace_of_lt (h : coord.toNat < side.toNat) : ringPlace side coord.toNat = coord := by
  rw [← UInt8.toNat_inj, ← Int.natCast_inj, toNat_ringPlace (by omega)]
  exact Int.emod_eq_of_lt (by omega) (by omega)

theorem wrapForward_eq_ringPlace (coord distance side : UInt8) :
    Area.wrapForward coord distance side = ringPlace side (coord.toNat + distance.toNat) := by
  rw [Area.wrapForward, Nat.add_mod_mod, ringPlace]
  rfl

theorem wrapBack_eq_ringPlace (hside : 0 < side.toNat) (coord distance : UInt8) :
    Area.wrapBack coord distance side = ringPlace side (coord.toNat - distance.toNat) := by
  have hmod := Nat.mod_lt distance.toNat hside
  rw [← UInt8.toNat_inj, ← Int.natCast_inj, toNat_ringPlace hside, Area.toNat_wrapBack hside]
  calc (((coord.toNat + side.toNat - distance.toNat % side.toNat) % side.toNat : Nat) : Int)
      = (coord.toNat + side.toNat - distance.toNat % side.toNat) % side.toNat := by
        rw [Int.natCast_emod, Int.natCast_sub (by omega), Int.natCast_add, Int.natCast_emod]
    _ = (coord.toNat - distance.toNat + side.toNat) % side.toNat := by
        rw [Int.sub_emod_emod, add_sub_right_comm]
    _ = (coord.toNat - distance.toNat) % side.toNat := Int.add_emod_right ..

end Ring

namespace Area

variable (a : Area) {d : Dot}

/-- The dot so many columns and rows further on, past the edges if need be. -/
def translate (d : Dot) (v : Int × Int) : Dot :=
  ⟨ringPlace a.width (d.x.toNat + v.1), ringPlace a.height (d.y.toNat + v.2)⟩

/-- The dot that a walk leads to, leg by leg. -/
def walk (d : Dot) (legs : List Leg) : Except GridError Dot :=
  legs.foldlM (fun d leg => a.navigate d leg.direction leg.distance) d

theorem contains_translate (d : Dot) (v : Int × Int) : a.contains (a.translate d v) = true :=
  contains_iff.2 ⟨ringPlace_lt a.width_pos _, ringPlace_lt a.height_pos _⟩

theorem translate_translate (d : Dot) (v w : Int × Int) :
    a.translate (a.translate d v) w = a.translate d (v + w) := by
  simp only [translate, ringPlace_add a.width_pos, ringPlace_add a.height_pos, Prod.fst_add,
    Prod.snd_add, add_assoc]

/-- A displacement that leads to a dot inside translates to it. -/
theorem translate_eq {d' : Dot} {v : Int × Int} (hd' : a.contains d' = true)
    (hx : d.x.toNat + v.1 = d'.x.toNat) (hy : d.y.toNat + v.2 = d'.y.toNat) :
    a.translate d v = d' := by
  obtain ⟨hx', hy'⟩ := contains_iff.1 hd'
  rw [translate, hx, hy, ringPlace_of_lt hx', ringPlace_of_lt hy']

theorem translate_zero (h : a.contains d = true) : a.translate d 0 = d :=
  a.translate_eq h (Int.add_zero _) (Int.add_zero _)

/-- Navigation from a dot inside is a translation. -/
theorem navigate_eq_translate (h : a.contains d = true) (leg : Leg) :
    a.navigate d leg.direction leg.distance = .ok (a.translate d leg.displacement) := by
  obtain ⟨hx, hy⟩ := contains_iff.1 h
  obtain ⟨direction, distance⟩ := leg
  unfold navigate
  rw [if_pos h]
  cases direction <;>
    simp [translate, Leg.displacement, wrapForward_eq_ringPlace,
      wrapBack_eq_ringPlace a.width_pos, wrapBack_eq_ringPlace a.height_pos, ringPlace_of_lt hx,
      ringPlace_of_lt hy, Int.sub_eq_add_neg]

/-- A walk from a dot inside is the translation by its net displacement. -/
theorem walk_eq_translate (h : a.contains d = true) (legs : List Leg) :
    a.walk d legs = .ok (a.translate d (netDisplacement legs)) := by
  induction legs generalizing d with
  | nil => exact congrArg Except.ok (a.translate_zero h).symm
  | cons leg legs ih =>
    rw [walk, List.foldlM_cons, a.navigate_eq_translate h]
    change a.walk (a.translate d leg.displacement) legs = _
    rw [ih (a.contains_translate d _), a.translate_translate, netDisplacement_cons]

end Area

/-! ### Lines -/

namespace Dot

theorem gap_self (c : UInt8) : gap c c = 0 := by
  rw [gap, Nat.max_self, Nat.min_self, Nat.sub_self]

theorem gap_comm (c c' : UInt8) : gap c c' = gap c' c := by
  rw [gap, gap, Nat.max_comm, Nat.min_comm]

theorem distance_comm (d d' : Dot) : d.distance d' = d'.distance d := by
  rw [distance, distance, gap_comm d.x, gap_comm d.y]

/-- A gap is a number of steps that can be gone in one leg. -/
theorem exists_toNat_eq_gap {c c' : UInt8} (h : c < c') :
    ∃ n : UInt8, n.toNat = gap c c' ∧ (c.toNat : Int) + n.toNat = c'.toNat := by
  have hlt := UInt8.lt_iff_toNat_lt.1 h
  have hgap : gap c c' = c'.toNat - c.toNat := by
    rw [gap]
    omega
  refine ⟨c' - c, ?_, ?_⟩
  · rw [hgap, UInt8.toNat_sub_of_le _ _ (UInt8.le_of_lt h)]
  · rw [UInt8.toNat_sub_of_le _ _ (UInt8.le_of_lt h)]
    omega

end Dot

/-- A leg that leads from one dot of a line to another without passing an edge. -/
structure Leg.Spans (leg : Leg) (start stop : Dot) : Prop where
  /-- It goes where the other dot lies. -/
  between : Direction.between start stop = .ok leg.direction
  /-- The way back is the opposite one. -/
  between_back : Direction.between stop start = .ok leg.direction.reverse
  /-- It is as long as the distance. -/
  distance : leg.distance.toNat = start.distance stop
  /-- It leads to the column of the other dot. -/
  column : start.x.toNat + leg.displacement.1 = stop.x.toNat
  /-- It leads to the row of the other dot. -/
  row : start.y.toNat + leg.displacement.2 = stop.y.toNat

namespace Leg.Spans

variable {leg : Leg} {start stop : Dot}

theorem back (h : leg.Spans start stop) : leg.back.Spans stop start where
  between := h.between_back
  between_back := by rw [Leg.back, Direction.reverse_reverse, h.between]
  distance := h.distance.trans (Dot.distance_comm ..)
  column := by
    rw [displacement_back, ← h.column]
    exact Int.add_neg_cancel_right ..
  row := by
    rw [displacement_back, ← h.row]
    exact Int.add_neg_cancel_right ..

/-- On a column the lower of two dots lies in the south of the upper one. -/
theorem of_y_lt (hx : start.x = stop.x) (hy : start.y < stop.y) :
    ∃ leg : Leg, leg.Spans start stop := by
  obtain ⟨n, hgap, hstop⟩ := Dot.exists_toNat_eq_gap hy
  have hnot : ¬stop.y < start.y := UInt8.not_lt.2 (UInt8.le_of_lt hy)
  refine ⟨⟨.south, n⟩, ?_, ?_, ?_, ?_, hstop⟩
  · rw [Direction.between, if_pos hx, if_neg hnot, if_pos hy]
  · rw [Direction.between, if_pos hx.symm, if_pos hy]
    rfl
  · rw [Dot.distance, hx, Dot.gap_self, Nat.zero_add, hgap]
  · rw [hx]
    exact Int.add_zero _

/-- On a row the right one of two dots lies in the east of the left one. -/
theorem of_x_lt (hy : start.y = stop.y) (hx : start.x < stop.x) :
    ∃ leg : Leg, leg.Spans start stop := by
  obtain ⟨n, hgap, hstop⟩ := Dot.exists_toNat_eq_gap hx
  have hne := UInt8.ne_of_lt hx
  have hnot : ¬stop.x < start.x := UInt8.not_lt.2 (UInt8.le_of_lt hx)
  refine ⟨⟨.east, n⟩, ?_, ?_, ?_, hstop, ?_⟩
  · rw [Direction.between, if_neg hne, if_pos hy, if_neg hnot]
  · rw [Direction.between, if_neg hne.symm, if_pos hy.symm, if_pos hx]
    rfl
  · rw [Dot.distance, hy, Dot.gap_self, Nat.add_zero, hgap]
  · rw [hy]
    exact Int.add_zero _

end Leg.Spans

/-- Two dots share exactly one coordinate. -/
def Dot.OnLine (d d' : Dot) : Prop := d.x = d'.x ∧ d.y ≠ d'.y ∨ d.x ≠ d'.x ∧ d.y = d'.y

instance (d d' : Dot) : Decidable (d.OnLine d') := by unfold Dot.OnLine; infer_instance

/-- One leg leads from a dot to any other one on a line with it. -/
theorem exists_spans {start stop : Dot} (h : start.OnLine stop) :
    ∃ leg : Leg, leg.Spans start stop := by
  rcases h with ⟨hx, hy⟩ | ⟨hx, hy⟩
  · rcases UInt8.lt_or_lt_of_ne hy with hlt | hlt
    · exact Leg.Spans.of_y_lt hx hlt
    · obtain ⟨leg, hleg⟩ := Leg.Spans.of_y_lt hx.symm hlt
      exact ⟨leg.back, hleg.back⟩
  · rcases UInt8.lt_or_lt_of_ne hx with hlt | hlt
    · exact Leg.Spans.of_x_lt hy hlt
    · obtain ⟨leg, hleg⟩ := Leg.Spans.of_x_lt hy.symm hlt
      exact ⟨leg.back, hleg.back⟩

namespace Area

/-- **Walks are translations of the torus.** Navigation never overflows. From a dot inside, a walk
leads to a dot inside: its column is that of the start and the columns of all legs together, reduced
modulo the width, and likewise its row. The legs lead there in any order, and in opposite order,
each the opposite way, they lead back. Between two dots inside that share exactly one coordinate,
the direction and the distance from one to the other lead there, and the direction back is the
opposite one. -/
theorem walk_on_torus (a : Area) :
    (∀ d direction distance,
      a.navigateChecked? d direction distance = some (a.navigate d direction distance)) ∧
    (∀ d legs, a.contains d = true →
      ∃ d', a.walk d legs = .ok d' ∧ a.contains d' = true ∧
        (d'.x.toNat : Int) = (d.x.toNat + (netDisplacement legs).1) % a.width.toNat ∧
        (d'.y.toNat : Int) = (d.y.toNat + (netDisplacement legs).2) % a.height.toNat ∧
        (∀ legs', legs'.Perm legs → a.walk d legs' = .ok d') ∧
        a.walk d' (retrace legs) = .ok d) ∧
    ∀ start stop, a.contains start = true → a.contains stop = true → start.OnLine stop →
      ∃ direction distance, Direction.between start stop = .ok direction ∧
        Direction.between stop start = .ok direction.reverse ∧
        distance.toNat = start.distance stop ∧
        a.navigate start direction distance = .ok stop := by
  refine ⟨a.navigateChecked?_eq, fun d legs h => ?_, fun start stop hstart hstop hline => ?_⟩
  · refine ⟨_, a.walk_eq_translate h legs, a.contains_translate d _,
      toNat_ringPlace a.width_pos _, toNat_ringPlace a.height_pos _, fun legs' hperm => ?_, ?_⟩
    · rw [a.walk_eq_translate h, netDisplacement_perm hperm]
    · rw [a.walk_eq_translate (a.contains_translate d _), a.translate_translate,
        netDisplacement_retrace, add_neg_cancel, a.translate_zero h]
  · obtain ⟨leg, hleg⟩ := exists_spans hline
    refine ⟨leg.direction, leg.distance, hleg.between, hleg.between_back, hleg.distance, ?_⟩
    rw [a.navigate_eq_translate hstart, a.translate_eq hstop hleg.column hleg.row]

/-- Twenty-three steps east, 255 north and four west pass the edges of an area of ten columns and
seven rows many times, and in another order end at the same dot; so do three steps north. -/
theorem walk_on_torus_many_rounds :
    ∃ a : Area, a.width = 10 ∧ a.height = 7 ∧ a.contains ⟨3, 3⟩ = true ∧
      [Leg.mk .west 4, ⟨.east, 23⟩, ⟨.north, 255⟩].Perm
        [⟨.east, 23⟩, ⟨.north, 255⟩, ⟨.west, 4⟩] ∧
      a.walk ⟨3, 3⟩ [⟨.east, 23⟩, ⟨.north, 255⟩, ⟨.west, 4⟩] = .ok ⟨2, 0⟩ ∧
      a.walk ⟨3, 3⟩ [⟨.west, 4⟩, ⟨.east, 23⟩, ⟨.north, 255⟩] = .ok ⟨2, 0⟩ ∧
      a.walk ⟨2, 0⟩ [⟨.east, 4⟩, ⟨.south, 255⟩, ⟨.west, 23⟩] = .ok ⟨3, 3⟩ ∧
      Dot.OnLine ⟨3, 3⟩ ⟨3, 0⟩ ∧
      Direction.between ⟨3, 0⟩ ⟨3, 3⟩ = .ok Direction.north.reverse ∧
      a.navigate ⟨3, 3⟩ .north 3 = .ok ⟨3, 0⟩ := by
  let a : Area := ⟨10, 7, by decide, by decide⟩
  have hperm : [Leg.mk .west 4, ⟨.east, 23⟩, ⟨.north, 255⟩].Perm
      [⟨.east, 23⟩, ⟨.north, 255⟩, ⟨.west, 4⟩] :=
    (List.perm_append_singleton _ [_, _]).symm
  have hline : Dot.OnLine ⟨3, 3⟩ ⟨3, 0⟩ := by decide
  obtain ⟨-, hwalk, hspan⟩ := walk_on_torus a
  have hend : a.walk ⟨3, 3⟩ [⟨.east, 23⟩, ⟨.north, 255⟩, ⟨.west, 4⟩] = .ok ⟨2, 0⟩ := by
    decide +kernel
  obtain ⟨d, hd, -, -, -, hreordered, hback⟩ :=
    hwalk ⟨3, 3⟩ [⟨.east, 23⟩, ⟨.north, 255⟩, ⟨.west, 4⟩] rfl
  obtain rfl := Except.ok.inj (hend.symm.trans hd)
  obtain ⟨direction, distance, hdirection, hreverse, hdistance, hto⟩ :=
    hspan ⟨3, 3⟩ ⟨3, 0⟩ rfl rfl hline
  obtain rfl : .north = direction := Except.ok.inj hdirection
  obtain rfl : 3 = distance := UInt8.toNat_inj.1 hdistance.symm
  exact ⟨a, rfl, rfl, rfl, hperm, hd, hreordered _ hperm, hback, hline, hreverse, hto⟩

end Area

end ClaimGrid
