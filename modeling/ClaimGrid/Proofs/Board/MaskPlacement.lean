import ClaimGrid.Proofs.Board.FirstFit
import ClaimGrid.Proofs.Grid.Stamps

/-!
# Masks in a fitting rotation

A mask that is placed at random is turned first, and a quarter further if it does not fit the area
then. As a quarter turn exchanges the sides, it fits after that, and its stamp on a rectangle of its
size inside the area is complete. The correction takes the four drawn rotations to the fitting ones
evenly: turning a draw by half a turn turns the stamp by half a turn. The rotation is drawn by its
number in the list of the four, so that counting over the list is counting over the draws.

## Main definitions

* `Area.Admits`: a mask fits the area as it is, or after a quarter turn.
* `Turn.next`, `Candidate.chosenTurn`: a quarter turn further, and the rotation that is stamped.
* `Candidate.drawsFor`: how many of the drawn rotations lead to a shape.
* `Candidate.IsFair`: the fitting rotations are chosen equally often.
* `Mask.IsStamp`: a location is a complete stamp of a rotation of a mask, inside an area.
* `Board.MaskOutcome`: what comes of a request for a stamp of a mask.

## Main results

* `Turn.random_eq_getElem`, `Turn.exists_drawn`: which rotation is drawn, and that each can be.
* `Candidate.drawsFor_equivariant`: what turns with the draws is chosen equally often.
* `Candidate.isFair`: the draw of a rotation is fair, for every mask and every area.
* `Candidate.exists_isStamp`: every draw gives a complete stamp.
* `Board.maskOutcome_createRandomMask`: the request, wherever the word stream stands.
-/

namespace ClaimGrid

/-- A mask fits an area as it is, or after a quarter turn. -/
def Area.Admits (area : Area) (m : Mask) : Prop :=
  (m.width ≤ area.width ∧ m.height ≤ area.height) ∨ (m.height ≤ area.width ∧ m.width ≤ area.height)

instance (area : Area) (m : Mask) : Decidable (area.Admits m) := by
  unfold Area.Admits; infer_instance

/-! ### Rotations -/

namespace Turn

/-- The rotation a quarter turn further to the right. -/
def next : Turn → Turn
  | keep => right
  | right => half
  | half => left
  | left => keep

/-- Every rotation is reached by going further. -/
theorem eq_or_next (t t' : Turn) :
    t' = t ∨ t' = t.next ∨ t' = t.next.next ∨ t' = t.next.next.next := by
  cases t <;> cases t' <;> decide

theorem perm_map_next : (all.map next).Perm all := by decide

theorem perm_map_next_next : (all.map fun t => t.next.next).Perm all := by decide

/-- The rotation that is drawn stands in the list at a number below four that is drawn. -/
theorem random_eq_getElem (s : WordStream) : ∃ h : (s.belowShifted32 4).1 < all.length,
    random s = (all[(s.belowShifted32 4).1], (s.belowShifted32 4).2) := by
  have h : (s.belowShifted32 4).1 < all.length := s.belowShifted32_lt (by decide)
  refine ⟨h, Prod.ext ?_ rfl⟩
  rw [← List.getD_eq_getElem all .keep h]
  rfl

/-- Each of the four numbers can be drawn. -/
theorem exists_drawn : ∀ i < 4, ∃ s : WordStream, (s.belowShifted32 4).1 = i
  | 0, _ => ⟨.ofSeed 3, by decide +kernel⟩
  | 1, _ => ⟨.ofSeed 5, by decide +kernel⟩
  | 2, _ => ⟨.ofSeed 0, by decide +kernel⟩
  | 3, _ => ⟨.ofSeed 14, by decide +kernel⟩

end Turn

namespace Mask

variable {m : Mask}

theorem turned_next (m : Mask) (t : Turn) : m.turned t.next = (m.turned t).turnRight := by
  cases t with
  | keep => rfl
  | left => exact m.turnRight_turnLeft.symm
  | right => exact m.turnRight_turnRight.symm
  | half => exact m.turnRight_turnOver.symm

theorem turned_next_next (m : Mask) (t : Turn) :
    m.turned t.next.next = (m.turned t).turnOver := by
  rw [turned_next, turned_next, turnRight_turnRight]

theorem count_turned (m : Mask) (t : Turn) : (m.turned t).count = m.count := by
  cases t with
  | keep => rfl
  | left => exact m.count_transformed .turnLeft
  | right => exact m.count_transformed .turnRight
  | half => exact m.count_transformed .turnOver

theorem turnRight_injective : Function.Injective turnRight :=
  Function.LeftInverse.injective turnLeft_turnRight

theorem turnOver_injective : Function.Injective turnOver :=
  Function.LeftInverse.injective turnOver_turnOver

end Mask

namespace Candidate

variable {area : Area} {m : Mask} {t t' : Turn}

theorem admits_iff_fits : area.Admits m ↔ fits area m = true ∨ fits area m.turnRight = true := by
  rw [fits_iff, fits_iff, Mask.width_turnRight, Mask.height_turnRight, Area.Admits]

/-- Half a turn does not change whether a mask fits. -/
theorem fits_turned_next_next (area : Area) (m : Mask) (t : Turn) :
    fits area (m.turned t.next.next) = fits area (m.turned t) := by
  rw [Mask.turned_next_next, fits, fits, Mask.width_turnOver, Mask.height_turnOver]

/-- If a mask fits in two rotations a quarter turn apart, then in all of them. -/
theorem fits_turned_of_next (ht : fits area (m.turned t) = true)
    (hnext : fits area (m.turned t.next) = true) (t' : Turn) : fits area (m.turned t') = true := by
  rcases Turn.eq_or_next t t' with rfl | rfl | rfl | rfl
  · exact ht
  · exact hnext
  · rwa [fits_turned_next_next]
  · rwa [fits_turned_next_next]

/-- The rotation that is stamped when some rotation is drawn: that one, if the mask fits in it, and
otherwise the next one. -/
def chosenTurn (area : Area) (m : Mask) (t : Turn) : Turn :=
  if fits area (m.turned t) then t else t.next

theorem turned_chosenTurn (area : Area) (m : Mask) (t : Turn) :
    m.turned (chosenTurn area m t) =
      if fits area (m.turned t) then m.turned t else (m.turned t).turnRight := by
  rw [chosenTurn, apply_ite m.turned, Mask.turned_next]

theorem fits_chosenTurn (h : area.Admits m) (t : Turn) :
    fits area (m.turned (chosenTurn area m t)) = true := by
  rw [turned_chosenTurn]
  exact fits_turned (admits_iff_fits.1 h) t

/-- Half a turn before the choice is half a turn after it. -/
theorem chosenTurn_next_next (area : Area) (m : Mask) (t : Turn) :
    chosenTurn area m t.next.next = (chosenTurn area m t).next.next := by
  rw [chosenTurn, chosenTurn, fits_turned_next_next]
  split <;> rfl

/-! ### Equal chances -/

/-- How many of the drawn rotations lead to a stamp of the given shape. -/
def drawsFor (area : Area) (m shape : Mask) : Nat :=
  Turn.all.countP fun t => m.turned (chosenTurn area m t) = shape

/-- If what is stamped turns with the draws, then as many draws lead to a shape as to the shape that
it turns into. -/
theorem drawsFor_equivariant {ρ : Turn → Turn} {g : Mask → Mask}
    (hρ : (Turn.all.map ρ).Perm Turn.all) (hg : Function.Injective g)
    (h : ∀ t, m.turned (chosenTurn area m (ρ t)) = g (m.turned (chosenTurn area m t)))
    (shape : Mask) : drawsFor area m (g shape) = drawsFor area m shape := by
  calc drawsFor area m (g shape)
      = (Turn.all.map ρ).countP fun t => m.turned (chosenTurn area m t) = g shape :=
        (hρ.countP_eq _).symm
    _ = Turn.all.countP fun t => g (m.turned (chosenTurn area m t)) = g shape := by
        rw [List.countP_map]
        exact List.countP_congr fun t _ => by simp only [Function.comp_apply, h]
    _ = drawsFor area m shape :=
        List.countP_congr fun t _ => by simp only [hg.eq_iff]

theorem drawsFor_turnOver (area : Area) (m shape : Mask) :
    drawsFor area m shape.turnOver = drawsFor area m shape := by
  refine drawsFor_equivariant Turn.perm_map_next_next Mask.turnOver_injective (fun t => ?_) shape
  rw [chosenTurn_next_next, Mask.turned_next_next]

/-- Where a mask fits in every rotation, none is corrected. -/
theorem drawsFor_turnRight (h : ∀ t, fits area (m.turned t) = true) (shape : Mask) :
    drawsFor area m shape.turnRight = drawsFor area m shape := by
  refine drawsFor_equivariant Turn.perm_map_next Mask.turnRight_injective (fun t => ?_) shape
  rw [chosenTurn, chosenTurn, if_pos (h t), if_pos (h t.next), Mask.turned_next]

/-- Of the four numbers that may be drawn, equally many lead to each of the rotations in which the
mask fits. -/
structure IsFair (area : Area) (m : Mask) : Prop where
  /-- The rotation that is drawn stands in the list at a number below four that is drawn. -/
  drawn : ∀ s : WordStream, ∃ h : (s.belowShifted32 4).1 < Turn.all.length,
    Turn.random s = (Turn.all[(s.belowShifted32 4).1], (s.belowShifted32 4).2)
  /-- Each of the four numbers can be drawn. -/
  possible : ∀ i < 4, ∃ s : WordStream, (s.belowShifted32 4).1 = i
  /-- Each fitting rotation is chosen for as many draws as any other one. -/
  turns : ∀ t, fits area (m.turned t) = true →
    Turn.all.countP (fun u => chosenTurn area m u = t) *
      Turn.all.countP (fun u => fits area (m.turned u)) = Turn.all.length
  /-- So is each shape that the mask takes in a fitting rotation. -/
  shapes : ∀ t t', fits area (m.turned t) = true → fits area (m.turned t') = true →
    drawsFor area m (m.turned t) = drawsFor area m (m.turned t')

theorem isFair (area : Area) (m : Mask) : IsFair area m := by
  refine ⟨Turn.random_eq_getElem, Turn.exists_drawn, fun t ht => ?_, fun t t' ht ht' => ?_⟩
  · -- whether a rotation fits is known from the first two
    have hhalf : fits area (m.turned .half) = fits area (m.turned .keep) :=
      fits_turned_next_next area m .keep
    have hleft : fits area (m.turned .left) = fits area (m.turned .right) :=
      fits_turned_next_next area m .right
    cases hkeep : fits area (m.turned .keep) <;> cases hright : fits area (m.turned .right) <;>
      cases t <;> simp [chosenTurn, Turn.all, Turn.next, hkeep, hright, hhalf, hleft] at ht ⊢
  · rcases Turn.eq_or_next t t' with rfl | rfl | rfl | rfl
    · rfl
    · rw [Mask.turned_next, drawsFor_turnRight (fits_turned_of_next ht ht')]
    · rw [Mask.turned_next_next, drawsFor_turnOver]
    · rw [fits_turned_next_next] at ht'
      rw [Mask.turned_next_next, drawsFor_turnOver, Mask.turned_next,
        drawsFor_turnRight (fits_turned_of_next ht ht')]

end Candidate

/-! ### Stamps inside an area -/

/-- A location is the complete stamp of a mask in a rotation that fits an area, and lies inside. -/
structure Mask.IsStamp (area : Area) (m : Mask) (t : Turn) (corner : Dot) (l : Location) :
    Prop where
  /-- The mask fits in this rotation. -/
  fits : Candidate.fits area (m.turned t) = true
  /-- No set cell falls off the coordinate range. -/
  unclipped : (m.turned t).Unclipped corner
  /-- The dots are the set cells of the turned mask, moved to the corner. -/
  mem_iff : ∀ d, d ∈ l ↔ ∃ dx dy, (m.turned t).cell dx dy ≠ 0 ∧
    d.x.toNat = corner.x.toNat + dx ∧ d.y.toNat = corner.y.toNat + dy
  /-- None is listed twice. -/
  nodup : l.dots.Nodup
  /-- There are as many as the mask has set cells. -/
  size : l.size = m.count
  /-- All lie inside the area. -/
  inside : ∀ d ∈ l, area.contains d = true

namespace Candidate

variable {area : Area} {m : Mask} {t : Turn}

/-- The stamp on a rectangle of its size inside the area is complete. -/
theorem isStamp_of_containsRect {r : Rect} (hfits : fits area (m.turned t) = true)
    (hr : area.containsRect r = true) (hw : r.width = (m.turned t).width)
    (hh : r.height = (m.turned t).height) :
    m.IsStamp area t r.origin ((m.turned t).location r.origin) := by
  have hunclipped : (m.turned t).Unclipped r.origin := by
    intro x y hxy
    obtain ⟨hx, hy⟩ := Mask.lt_of_cell_ne_zero hxy
    obtain ⟨hright, hlower⟩ := Area.containsRect_iff.1 hr
    rw [hw, Mask.toNat_width] at hright
    rw [hh, Mask.toNat_height] at hlower
    have hwidth := area.width.toNat_lt
    have hheight := area.height.toNat_lt
    change r.x.toNat + x ≤ 255 ∧ r.y.toNat + y ≤ 255
    omega
  exact ⟨hfits, hunclipped, fun d => Mask.mem_location_iff, Mask.nodup_location _ _,
    (Mask.size_location_eq_count_iff.2 hunclipped).trans (m.count_turned t),
    fun d hd => Area.contains_of_mem_stamp hr hw hh hd⟩

/-- Every draw gives a complete stamp of the mask in the rotation that is chosen. -/
theorem exists_isStamp (h : area.Admits m) (s : WordStream) :
    ∃ corner l, (randomMask area m s).1 = .ok ⟨l, none⟩ ∧
      m.IsStamp area (chosenTurn area m (Turn.random s).1) corner l := by
  have hfits := fits_chosenTurn h (Turn.random s).1
  obtain ⟨hwidth, hheight⟩ := fits_iff.1 hfits
  obtain ⟨r, t, hr, hw, hh, hin⟩ := Area.randomRect_of_fits (Mask.width_ne_zero _)
    (Mask.height_ne_zero _) hwidth hheight (Turn.random s).2
  have hturned : m.randomTurn s = (m.turned (Turn.random s).1, (Turn.random s).2) := rfl
  refine ⟨r.origin, _, ?_, isStamp_of_containsRect hfits hin hw hh⟩
  dsimp only [randomMask]
  simp only [hturned, ← turned_chosenTurn, hr]

end Candidate

/-! ### Requests -/

namespace Board

variable {α : Type} [DecidableEq α] {area : Area} {b : Board α} {o : α} {m : Mask}

/-- What comes of a request for a stamp of a mask that has a set cell. -/
structure MaskOutcome (area : Area) (b : Board α) (o : α) (m : Mask)
    (outcome : Except BoardError Location × Board α) : Prop where
  /-- It is refused for the size of the mask exactly if no rotation fits the area. -/
  refused_iff : (∃ width height areaWidth areaHeight,
    outcome.1 = .error (.grid (.rectDoesNotFit width height areaWidth areaHeight))) ↔
      ¬area.Admits m
  /-- Then it hears of both sizes, nothing is drawn, and nothing changes. -/
  idle : ¬area.Admits m →
    outcome = (.error (.grid (.rectDoesNotFit m.width m.height area.width area.height)), b)
  /-- No coordinate overflows on the way. -/
  checked : b.createRandomMaskChecked? o m = some outcome
  /-- Otherwise every draw gives a complete stamp. -/
  drawn : area.Admits m → ∀ s, ∃ corner l, (Candidate.randomMask area m s).1 = .ok ⟨l, none⟩ ∧
    m.IsStamp area (Candidate.chosenTurn area m (Turn.random s).1) corner l
  /-- If the request succeeds, the object has been given the stamp that was drawn last. -/
  placed : ∀ l, outcome.1 = .ok l → ∃ s corner,
    b.EndedOn o (Candidate.randomMask area m) s ⟨l, none⟩ outcome ∧
    m.IsStamp area (Candidate.chosenTurn area m (Turn.random s).1) corner l

omit [DecidableEq α] in
/-- A mask with a set cell is admitted exactly if asking for a stamp of it is no flaw. -/
theorem admits_iff_not_flawed (hset : m.count ≠ 0) :
    area.Admits m ↔ ¬(BoardRequest.createRandomMask o m).Flawed area := by
  rw [Candidate.admits_iff_fits, BoardRequest.Flawed, or_iff_right hset, not_and_or,
    Bool.not_eq_false, Bool.not_eq_false]

theorem createRandomMask_of_not_admits (hset : m.count ≠ 0) (h : ¬b.area.Admits m) (o : α) :
    b.createRandomMask o m =
      (.error (.grid (.rectDoesNotFit m.width m.height b.area.width b.area.height)), b) := by
  rw [createRandomMask, if_neg hset, if_neg]
  rwa [Bool.or_eq_true, ← Candidate.admits_iff_fits]

theorem maskOutcome (hset : m.count ≠ 0) (b : Board α) (o : α) :
    MaskOutcome b.area b o m (b.createRandomMask o m) := by
  have hidle (h : ¬b.area.Admits m) := createRandomMask_of_not_admits hset h o
  have hflawed (h : b.area.Admits m) := (admits_iff_not_flawed (o := o) hset).1 h
  refine ⟨⟨?_, fun h => ⟨_, _, _, _, congrArg Prod.fst (hidle h)⟩⟩, hidle,
    createRandomMaskChecked?_eq b o m, Candidate.exists_isStamp, fun l hl => ?_⟩
  · rintro ⟨width, height, areaWidth, areaHeight, he⟩ h
    have hretriable := isRetriable_of_not_flawed (hflawed h) (withLocation_eq_error.2 he)
    cases hretriable
  · have h : b.area.Admits m := by
      by_contra h
      rw [hidle h] at hl
      cases hl
    obtain ⟨hproposes, hsearch⟩ := createRandomMask_of_not_flawed (hflawed h)
    rw [hsearch] at hl ⊢
    obtain ⟨s, c, rfl, hended⟩ := exists_endedOn hproposes hl
    obtain ⟨corner, l, hdrawn, hstamp⟩ := Candidate.exists_isStamp h s
    obtain rfl := Except.ok.inj (hended.drawn.symm.trans hdrawn)
    exact ⟨s, corner, hended, hstamp⟩

variable {settings : BoardSettings}

/-- On every board that requests lead to, wherever the word stream stands: a mask with a set cell is
refused for its size exactly if neither it nor its quarter turn fits the area; otherwise every draw
gives a complete stamp of one of its rotations inside the area, which are chosen evenly among those
that fit, over the four numbers that may be drawn, and if the request succeeds, the object is given
such a stamp. -/
theorem maskOutcome_createRandomMask (hb : Reachable area settings b) (hset : m.count ≠ 0) (o : α)
    (s : WordStream) :
    MaskOutcome area (b.seek s) o m ((b.seek s).createRandomMask o m) ∧
      Candidate.IsFair area m := by
  obtain ⟨rfl, -⟩ := hb.rules
  exact ⟨maskOutcome hset (b.seek s) o, Candidate.isFair b.area m⟩

/-- A yard that fits only after a quarter turn, next to an object that closes the gate of one of the
two turned yards. -/
theorem maskOutcome_createRandomMask_upright :
    ∃ b : Board Nat, Reachable ⟨4, 5, by decide, by decide⟩ {} b ∧ Mask.home.count ≠ 0 ∧
      Area.Admits ⟨4, 5, by decide, by decide⟩ .home ∧
      Candidate.fits ⟨4, 5, by decide, by decide⟩ .home = false ∧
      ((b.seek (.ofSeed 1)).createRandomMask 0 .home).1 =
        .ok (Mask.home.turnRight.location ⟨0, 0⟩) ∧
      ∃ t corner, Mask.home.IsStamp ⟨4, 5, by decide, by decide⟩ t corner
        (Mask.home.turnRight.location ⟨0, 0⟩) := by
  have hb : Reachable ⟨4, 5, by decide, by decide⟩ {} _ :=
    (Reachable.start (α := Nat) rfl).step (.create 1 (.ofDot ⟨0, 2⟩))
  have hset : Mask.home.count ≠ 0 := by decide
  obtain ⟨_, corner, -, hstamp⟩ :=
    (maskOutcome_createRandomMask hb hset 0 (.ofSeed 1)).1.placed
      (Mask.home.turnRight.location ⟨0, 0⟩) (by decide +kernel)
  exact ⟨_, hb, hset, by decide, by decide, by decide +kernel, _, corner, hstamp⟩

end Board

end ClaimGrid
