import ClaimGrid.Proofs.Board.FirstFit

/-!
# Rectangles within a margin

A rectangle that is placed at random with a margin is the inner part of a larger rectangle, which is
what is drawn. The larger one lies inside the area, so the margin can be added to its corner without
overflow, and growing the inner part by the margin gives it back. Nothing of it may be claimed, and
only its inner part is claimed afterwards.

## Main definitions

* `Area.Cramped`: a rectangle does not go into an area with its margin.
* `Candidate.DrawsInner`: a rectangle is drawn, and the part of it within the margin is proposed.
* `Board.Framed`: an object was placed on the inner one of two rectangles.
* `Board.MarginOutcome`: what comes of a request for a rectangle within a margin.

## Main results

* `Rect.expand_inner`: the inner part, grown by the margin.
* `Candidate.exists_drawsInner`: every draw succeeds.
* `Board.EndedOn.framed`: what is claimed once a search has ended.
* `Board.marginOutcome_createRandomRectMargin`: the request, wherever the word stream stands.
-/

namespace ClaimGrid

/-- A rectangle has a side that is zero, or that with a margin at both ends is no 8-bit number or
longer than that of the area. -/
def Area.Cramped (area : Area) (width height margin : UInt8) : Prop :=
  width = 0 ∨ height = 0 ∨
    255 < width.toNat + 2 * margin.toNat ∨ 255 < height.toNat + 2 * margin.toNat ∨
    area.width.toNat < width.toNat + 2 * margin.toNat ∨
    area.height.toNat < height.toNat + 2 * margin.toNat

instance (area : Area) (width height margin : UInt8) :
    Decidable (area.Cramped width height margin) := by unfold Area.Cramped; infer_instance

/-- The part of a rectangle that begins a margin after its corner. -/
def Rect.inner (outer : Rect) (width height margin : UInt8) : Rect :=
  ⟨outer.x + margin, outer.y + margin, width, height⟩

section Inner

variable {outer : Rect} {width height margin : UInt8}

/-- What a rectangle in the coordinate range lets say about its inner part. -/
theorem Rect.toNat_inner (hvalid : outer.IsValid)
    (hw : outer.width.toNat = width.toNat + 2 * margin.toNat)
    (hh : outer.height.toNat = height.toNat + 2 * margin.toNat) :
    (outer.inner width height margin).x.toNat = outer.x.toNat + margin.toNat ∧
      (outer.inner width height margin).y.toNat = outer.y.toNat + margin.toNat := by
  obtain ⟨hwpos, hhpos, hright, hlower⟩ := hvalid
  have hx := outer.x.toNat_lt
  have hy := outer.y.toNat_lt
  simp only [inner, UInt8.toNat_add]
  omega

/-- The inner part of a rectangle, grown by the margin, is the rectangle again. -/
theorem Rect.expand_inner (hvalid : outer.IsValid)
    (hw : outer.width.toNat = width.toNat + 2 * margin.toNat)
    (hh : outer.height.toNat = height.toNat + 2 * margin.toNat) :
    (outer.inner width height margin).expand margin = some outer := by
  obtain ⟨hx, hy⟩ := toNat_inner hvalid hw hh
  have hwlt := outer.width.toNat_lt
  have hhlt := outer.height.toNat_lt
  have hgrown {side grown : UInt8} (h : grown.toNat = side.toNat + 2 * margin.toNat) :
      side + margin + margin = grown := by
    have hlt := grown.toNat_lt
    rw [← UInt8.toNat_inj, UInt8.toNat_add, UInt8.toNat_add]
    omega
  have hfits : margin ≤ (outer.inner width height margin).x ∧
      margin ≤ (outer.inner width height margin).y ∧ width.toNat + 2 * margin.toNat < 256 ∧
      height.toNat + 2 * margin.toNat < 256 := by
    rw [UInt8.le_iff_toNat_le, UInt8.le_iff_toNat_le]
    omega
  have hmake : Rect.make (outer.x + margin - margin) (outer.y + margin - margin)
      (width + margin + margin) (height + margin + margin) = .ok outer := by
    rw [UInt8.add_sub_cancel, UInt8.add_sub_cancel, hgrown hw, hgrown hh]
    exact Rect.make_eq_ok_iff.2 ⟨hvalid, rfl⟩
  rw [expand]
  exact (if_pos hfits).trans (congrArg Except.toOption hmake)

end Inner

/-! ### Draws -/

section Draws

variable {area : Area} {width height margin : UInt8}

/-- The outer sides of a rectangle that is not cramped, and that they fit. -/
theorem Board.outer_of_not_cramped (h : ¬area.Cramped width height margin) :
    width ≠ 0 ∧ height ≠ 0 ∧ withMargin width margin = some (width + margin + margin) ∧
      withMargin height margin = some (height + margin + margin) ∧
      ¬(width + margin + margin = 0 ∨ height + margin + margin = 0 ∨
        area.width < width + margin + margin ∨ area.height < height + margin + margin) := by
  simp only [Area.Cramped, not_or] at h
  obtain ⟨hwidth, hheight, hw, hh, hwa, hha⟩ := h
  have hw' : withMargin width margin = some (width + margin + margin) := if_pos (by omega)
  have hh' : withMargin height margin = some (height + margin + margin) := if_pos (by omega)
  exact ⟨hwidth, hheight, hw', hh',
    mt (outer_flaw_iff (not_or.2 ⟨hwidth, hheight⟩) hw' hh').1 (not_or.2 ⟨hwa, hha⟩)⟩

namespace Candidate

/-- A rectangle is drawn from the stream `s`, and the part of it within the margin is a rectangle of
the given sides. -/
structure DrawsInner (area : Area) (width height margin : UInt8) (s : WordStream) (outer : Rect) :
    Prop where
  /-- What is drawn has the margin at both ends of each side. -/
  drawn : (area.randomRect (width + margin + margin) (height + margin + margin) s).1 = .ok outer
  /-- It is wider by two margins. -/
  toNat_width : outer.width.toNat = width.toNat + 2 * margin.toNat
  /-- It is higher by two margins. -/
  toNat_height : outer.height.toNat = height.toNat + 2 * margin.toNat
  /-- It lies inside the area. -/
  inside : area.containsRect outer = true
  /-- The margin can be added to the column of its corner. -/
  left_le : outer.x.toNat + margin.toNat ≤ 255
  /-- It can be added to the row of its corner. -/
  top_le : outer.y.toNat + margin.toNat ≤ 255
  /-- The inner part is accepted as a rectangle. -/
  make_eq : Rect.make (outer.x + margin) (outer.y + margin) width height =
    .ok (outer.inner width height margin)
  /-- It is proposed, and all of what was drawn must be free. -/
  proposed : (randomRectMargin area width height margin (width + margin + margin)
    (height + margin + margin) s).1 = .ok ⟨(outer.inner width height margin).location, some outer⟩
  /-- Nothing overflows on the way. -/
  checked : randomRectMarginChecked? area width height margin (width + margin + margin)
    (height + margin + margin) s =
      some (randomRectMargin area width height margin (width + margin + margin)
        (height + margin + margin) s)

/-- Every draw succeeds for a rectangle that is not cramped. -/
theorem exists_drawsInner (h : ¬area.Cramped width height margin) (s : WordStream) :
    ∃ outer, DrawsInner area width height margin s outer := by
  obtain ⟨hwidth, hheight, hw, hh, houter⟩ := Board.outer_of_not_cramped h
  obtain ⟨outer, hrect, hwo, hho, hin, hmake, hcandidate⟩ :=
    randomRectMargin_eq hwidth hheight hw hh houter s
  obtain ⟨hright, hlower⟩ := Area.containsRect_iff.1 hin
  have hw' : outer.width.toNat = _ := (congrArg UInt8.toNat hwo).trans (toNat_of_withMargin hw)
  have hh' : outer.height.toNat = _ := (congrArg UInt8.toNat hho).trans (toNat_of_withMargin hh)
  have hwa := area.width.toNat_lt
  have hha := area.height.toNat_lt
  exact ⟨outer, hrect, hw', hh', hin, by omega, by omega, hmake, congrArg Prod.fst hcandidate,
    randomRectMarginChecked?_eq hw hh s⟩

/-- As its sides are positive, what is drawn is in the coordinate range. -/
theorem DrawsInner.isValid {s : WordStream} {outer : Rect}
    (h : DrawsInner area width height margin s outer) (hfits : ¬area.Cramped width height margin) :
    outer.IsValid := by
  obtain ⟨hright, hlower⟩ := Area.containsRect_iff.1 h.inside
  obtain ⟨hwidth, hheight, -⟩ := Board.outer_of_not_cramped hfits
  have hw := h.toNat_width
  have hh := h.toNat_height
  have hwa := area.width.toNat_lt
  have hha := area.height.toNat_lt
  simp only [ne_eq, ← UInt8.toNat_inj, UInt8.toNat_zero] at hwidth hheight
  rw [Rect.IsValid]
  omega

end Candidate

end Draws

/-! ### Requests -/

namespace Board

variable {α : Type} {area : Area} {b : Board α} {o : α} {width height margin : UInt8}

/-- An object was placed on the inner one of two rectangles. The outer one lies inside the area and
was free; all dots of it that the object did not take still are. -/
structure Framed (area : Area) (b b' : Board α) (o : α) (margin : UInt8) (inner outer : Rect) :
    Prop where
  /-- The inner rectangle keeps its distance from the left edge of the area. -/
  left : margin.toNat ≤ inner.x.toNat
  /-- It keeps its distance from the upper edge. -/
  top : margin.toNat ≤ inner.y.toNat
  /-- It keeps its distance from the right edge. -/
  right : inner.x.toNat + inner.width.toNat + margin.toNat ≤ area.width.toNat
  /-- It keeps its distance from the lower edge. -/
  bottom : inner.y.toNat + inner.height.toNat + margin.toNat ≤ area.height.toNat
  /-- Grown by the margin, the inner rectangle is the outer one. -/
  expand : inner.expand margin = some outer
  /-- The outer rectangle covers the inner one. -/
  covers : ∀ d ∈ inner.location, d ∈ outer.location
  /-- Nobody claimed a dot of the outer rectangle. -/
  free : ∀ d ∈ outer.location, b.owner? d = none
  /-- Of its dots, exactly the inner ones are claimed now, by the object. -/
  taken : ∀ d ∈ outer.location, b'.owner? d = if d ∈ inner.location then some o else none
  /-- No other dot changed hands. -/
  spared : ∀ d, d ∉ outer.location → b'.owner? d = b.owner? d

/-- A search that ended on a candidate has framed the object. -/
theorem EndedOn.framed {s : WordStream} {outer : Rect}
    {outcome : Except BoardError Location × Board α} (hfits : ¬area.Cramped width height margin)
    (hdraws : Candidate.DrawsInner area width height margin s outer)
    (h : b.EndedOn o (Candidate.randomRectMargin area width height margin
      (width + margin + margin) (height + margin + margin)) s
        ⟨(outer.inner width height margin).location, some outer⟩ outcome) :
    Framed area b outcome.2 o margin (outer.inner width height margin) outer := by
  have hvalid := hdraws.isValid hfits
  have hw := hdraws.toNat_width
  have hh := hdraws.toNat_height
  obtain ⟨hx, hy⟩ := Rect.toNat_inner hvalid hw hh
  obtain ⟨hright, hlower⟩ := Area.containsRect_iff.1 hdraws.inside
  have hwidth : (outer.inner width height margin).width.toNat = width.toNat := rfl
  have hheight : (outer.inner width height margin).height.toNat = height.toNat := rfl
  have hwa := area.width.toNat_lt
  have hha := area.height.toNat_lt
  have hcovers : ∀ d ∈ (outer.inner width height margin).location, d ∈ outer.location := by
    intro d hd
    rw [Rect.mem_location_iff (by omega) (by omega)] at hd ⊢
    omega
  have hfree : b.IsFree outer.location := h.unobstructed.2 outer rfl
  refine ⟨by omega, by omega, by omega, by omega, Rect.expand_inner hvalid hw hh, hcovers, hfree,
    fun d hd => ?_, fun d hd => ?_⟩
  · rw [h.owner?_eq, hfree d hd]
  · rw [h.owner?_eq, if_neg fun hinner => hd (hcovers d hinner)]

/-- As no side of an area exceeds 255, a rectangle is cramped exactly if asking for it is a flaw. -/
theorem cramped_iff_flawed : area.Cramped width height margin ↔
    (BoardRequest.createRandomRectMargin o width height margin).Flawed area := by
  have hw := area.width.toNat_lt
  have hh := area.height.toNat_lt
  rw [Area.Cramped, BoardRequest.Flawed]
  refine or_congr_right (or_congr_right ?_)
  omega

variable [DecidableEq α]

/-- A rectangle that does not go into the area is refused for that, and nothing is drawn. -/
theorem createRandomRectMargin_of_cramped (hreg : b.isRegistered o = false)
    (hretries : b.retries ≠ 0) (h : b.area.Cramped width height margin) :
    ∃ e, b.createRandomRectMargin o width height margin = (.error (.grid e), b) := by
  by_cases hinvalid : (width = 0 ∨ height = 0) ∨ withMargin width margin = none ∨
      withMargin height margin = none
  · exact ⟨_, createRandomRectMargin_of_no_outer hinvalid b o⟩
  · obtain ⟨hsides, houter⟩ := not_or.1 hinvalid
    obtain ⟨hwidth, hheight⟩ := not_or.1 houter
    obtain ⟨outerWidth, hw⟩ := Option.ne_none_iff_exists'.1 hwidth
    obtain ⟨outerHeight, hh⟩ := Option.ne_none_iff_exists'.1 hheight
    have hflawed := or_assoc.2 ((cramped_iff_flawed (o := o)).1 h) |>.resolve_left hsides
    obtain ⟨e, he⟩ := Candidate.randomRectMargin_of_not_fits
      ((outer_flaw_iff hsides hw hh).2 hflawed)
    rw [createRandomRectMargin_of_outer hsides hw hh]
    exact ⟨e, place_of_refused hreg hretries he⟩

/-- What comes of a request for a rectangle of an object that is not on the board. The outer
rectangle has the sides `width + margin + margin` and `height + margin + margin`. -/
structure MarginOutcome (area : Area) (b : Board α) (o : α) (width height margin : UInt8)
    (outcome : Except BoardError Location × Board α) : Prop where
  /-- It is refused for a geometric cause exactly if the rectangle does not go into the area. -/
  refused_iff : (∃ e, outcome.1 = .error (.grid e)) ↔ area.Cramped width height margin
  /-- Then nothing is drawn, and nothing changes. -/
  idle : (∃ e, outcome.1 = .error (.grid e)) → outcome.2 = b
  /-- No coordinate overflows on the way. -/
  checked : b.createRandomRectMarginChecked? o width height margin = some outcome
  /-- Otherwise neither sum overflows. -/
  sides : ¬area.Cramped width height margin →
    (width + margin + margin).toNat = width.toNat + 2 * margin.toNat ∧
    (height + margin + margin).toNat = height.toNat + 2 * margin.toNat
  /-- Every draw gives a rectangle, whose inner part is proposed. -/
  drawn : ¬area.Cramped width height margin →
    ∀ s, ∃ outer, Candidate.DrawsInner area width height margin s outer
  /-- If the request succeeds, the object was placed on the inner part of what was drawn last. -/
  placed : ∀ l, outcome.1 = .ok l → ∃ s outer,
    b.EndedOn o (Candidate.randomRectMargin area width height margin (width + margin + margin)
      (height + margin + margin)) s ⟨l, some outer⟩ outcome ∧
    Candidate.DrawsInner area width height margin s outer ∧
    l = (outer.inner width height margin).location ∧
    Framed area b outcome.2 o margin (outer.inner width height margin) outer

theorem createRandomRectMargin_refused_iff (hreg : b.isRegistered o = false)
    (hretries : b.retries ≠ 0) :
    (∃ e, (b.createRandomRectMargin o width height margin).1 = .error (.grid e)) ↔
      b.area.Cramped width height margin := by
  constructor
  · rintro ⟨e, he⟩
    by_contra h
    have hretriable : (BoardError.grid e).kind.isRetriable = true :=
      isRetriable_of_not_flawed (r := .createRandomRectMargin o width height margin)
        (mt cramped_iff_flawed.2 h) (withLocation_eq_error.2 he)
    cases hretriable
  · intro h
    obtain ⟨e, he⟩ := createRandomRectMargin_of_cramped hreg hretries h
    exact ⟨e, congrArg Prod.fst he⟩

theorem marginOutcome (hreg : b.isRegistered o = false) (hretries : b.retries ≠ 0) :
    MarginOutcome b.area b o width height margin
      (b.createRandomRectMargin o width height margin) := by
  have hrefused : (∃ e, (b.createRandomRectMargin o width height margin).1 = .error (.grid e)) ↔
      b.area.Cramped width height margin := createRandomRectMargin_refused_iff hreg hretries
  refine ⟨hrefused, fun h => ?_, createRandomRectMarginChecked?_eq b o width height margin,
    fun h => ?_, Candidate.exists_drawsInner, fun l hl => ?_⟩
  · obtain ⟨e, he⟩ := createRandomRectMargin_of_cramped hreg hretries (hrefused.1 h)
    rw [he]
  · obtain ⟨-, -, hw, hh, -⟩ := outer_of_not_cramped h
    exact ⟨Candidate.toNat_of_withMargin hw, Candidate.toNat_of_withMargin hh⟩
  · have h : ¬b.area.Cramped width height margin := by
      intro h
      obtain ⟨e, he⟩ := hrefused.2 h
      cases he.symm.trans hl
    obtain ⟨hwidth, hheight, hw, hh, houter⟩ := outer_of_not_cramped h
    rw [createRandomRectMargin_of_outer (not_or.2 ⟨hwidth, hheight⟩) hw hh] at hl ⊢
    obtain ⟨s, c, rfl, hended⟩ :=
      exists_endedOn (Candidate.randomRectMargin_of_fits hwidth hheight hw hh houter) hl
    obtain ⟨outer, hdraws⟩ := Candidate.exists_drawsInner h s
    obtain rfl := Except.ok.inj (hended.drawn.symm.trans hdraws.proposed)
    exact ⟨s, outer, hended, hdraws, rfl, hended.framed h hdraws⟩

variable {settings : BoardSettings}

/-- On every board that requests lead to, wherever the word stream stands: a rectangle with a margin
of an object that is not on the board is refused for a geometric cause, and nothing drawn, exactly
if it does not go into the area; otherwise no draw overflows or fails, and if it is placed, then
with a free border as wide as the margin inside the rectangle that was drawn. -/
theorem marginOutcome_createRandomRectMargin (hb : Reachable area settings b)
    (hnew : o ∉ b.objects) (s : WordStream) (width height margin : UInt8) :
    MarginOutcome area (b.seek s) o width height margin
      ((b.seek s).createRandomRectMargin o width height margin) := by
  obtain ⟨rfl, hretries⟩ := hb.rules
  exact marginOutcome (b := b.seek s) (isRegistered_eq_false_iff.2 hnew) hretries

/-- A dot with a margin all around, next to an object that leaves room for it in one place only. -/
theorem marginOutcome_createRandomRectMargin_beside :
    ∃ b : Board Nat, Reachable ⟨4, 3, by decide, by decide⟩ {} b ∧ 0 ∉ b.objects ∧
      ¬Area.Cramped ⟨4, 3, by decide, by decide⟩ 1 1 1 ∧
      ((b.seek (.ofSeed 1)).createRandomRectMargin 0 1 1 1).1 = .ok (.ofDot ⟨1, 1⟩) ∧
      ∃ outer : Rect, .ofDot ⟨1, 1⟩ = (outer.inner 1 1 1).location ∧
        Framed ⟨4, 3, by decide, by decide⟩ (b.seek (.ofSeed 1))
          ((b.seek (.ofSeed 1)).createRandomRectMargin 0 1 1 1).2 0 1 (outer.inner 1 1 1)
          outer := by
  have hb : Reachable ⟨4, 3, by decide, by decide⟩ {} _ :=
    (Reachable.start (α := Nat) rfl).step (.create 1 (.ofDot ⟨3, 2⟩))
  have hnew : 0 ∉ [1] := by decide
  obtain ⟨_, outer, -, -, hl, hframed⟩ :=
    (marginOutcome_createRandomRectMargin hb hnew (.ofSeed 1) 1 1 1).placed (.ofDot ⟨1, 1⟩)
      (by decide +kernel)
  exact ⟨_, hb, hnew, by decide, by decide +kernel, outer, hl, hframed⟩

end Board

end ClaimGrid
