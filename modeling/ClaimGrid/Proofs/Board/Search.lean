import ClaimGrid.Board.Placement
import ClaimGrid.Proofs.Board.Claims

/-!
# Searches for a random place

A search leaves two traces only: the object on a free candidate, or the word stream at another
position. A search that is refused for any other reason than its budget has drawn nothing, because a
sampler that can refuse a size refuses it always, and before its first draw.

## Main definitions

* `Sampler.IsSteady`: a sampler always proposes a candidate, or always refuses and draws nothing.
* `Board.Refused`: an outcome that leaves everything but the word stream, and the stream too unless
  the budget is exhausted.
* `Board.Placed`: an outcome that has the object on a location that was free.

## Main results

* `Candidate.isSteady_randomDot`, `Candidate.isSteady_randomRect`,
  `Candidate.isSteady_randomRectMargin`, `Candidate.isSteady_randomMask`: the samplers of a board
  are steady on what they are asked for.
* `Board.place_cases`: a search is refused, or places the object.
* `Board.createRandomDot_cases`, `Board.createRandomRect_cases`,
  `Board.createRandomRectMargin_cases`, `Board.createRandomMask_cases`: so does each request.
-/

namespace ClaimGrid

/-- A sampler proposes a candidate from every stream, or it refuses every stream with one cause and
draws nothing. -/
def Sampler.IsSteady (sample : Sampler) : Prop :=
  (∀ s, ∃ c, (sample s).1 = .ok c) ∨ ∃ e, ∀ s, sample s = (.error e, s)

namespace Candidate

theorem isSteady_randomDot (area : Area) : (randomDot area).IsSteady := .inl fun _ => ⟨_, rfl⟩

/-- A size that does not fit is refused for one reason, and nothing is drawn. -/
theorem randomRect_of_not_fits {area : Area} {width height : UInt8}
    (h : width = 0 ∨ height = 0 ∨ area.width < width ∨ area.height < height) :
    ∃ e, ∀ s, randomRect area width height s = (.error (.grid e), s) := by
  obtain ⟨e, he⟩ := Area.randomRect_of_not_fits h
  refine ⟨e, fun s => ?_⟩
  simp only [randomRect, he]

/-- A size that fits is always given a place. -/
theorem randomRect_of_fits {area : Area} {width height : UInt8}
    (h : ¬(width = 0 ∨ height = 0 ∨ area.width < width ∨ area.height < height)) (s : WordStream) :
    ∃ c, (randomRect area width height s).1 = .ok c := by
  simp only [not_or, UInt8.not_lt] at h
  obtain ⟨hw, hh, hwa, hha⟩ := h
  obtain ⟨r, t, hr, -⟩ := Area.randomRect_of_fits hw hh hwa hha s
  refine ⟨⟨r.location, none⟩, ?_⟩
  simp only [randomRect, hr]

theorem isSteady_randomRect (area : Area) (width height : UInt8) :
    (randomRect area width height).IsSteady := by
  by_cases h : width = 0 ∨ height = 0 ∨ area.width < width ∨ area.height < height
  · obtain ⟨e, he⟩ := randomRect_of_not_fits h
    exact .inr ⟨.grid e, he⟩
  · exact .inl (randomRect_of_fits h)

/-! ### Margins -/

theorem toNat_of_withMargin {side margin outer : UInt8}
    (h : Board.withMargin side margin = some outer) :
    outer.toNat = side.toNat + 2 * margin.toNat := by
  rw [Board.withMargin] at h
  split at h
  · obtain rfl := Option.some.inj h
    simp only [UInt8.toNat_add]
    omega
  · exact absurd h (by simp)

/-- The part of a drawn rectangle inside its margin is a rectangle again. -/
private theorem make_inner {area : Area} {r : Rect} {width height margin : UInt8}
    (hwidth : width ≠ 0) (hheight : height ≠ 0)
    (hw : r.width.toNat = width.toNat + 2 * margin.toNat)
    (hh : r.height.toNat = height.toNat + 2 * margin.toNat) (hr : area.containsRect r = true) :
    Rect.make (r.x + margin) (r.y + margin) width height =
      .ok ⟨r.x + margin, r.y + margin, width, height⟩ := by
  refine Rect.make_eq_ok_iff.2 ⟨?_, rfl⟩
  have hwpos : width.toNat ≠ 0 := fun e => hwidth (UInt8.toNat_inj.1 e)
  have hhpos : height.toNat ≠ 0 := fun e => hheight (UInt8.toNat_inj.1 e)
  have haw := area.width.toNat_lt
  have hah := area.height.toNat_lt
  simp only [Area.containsRect, Bool.and_eq_true, decide_eq_true_eq] at hr
  simp only [Rect.IsValid, UInt8.toNat_add]
  omega

/-- A rectangle that does not fit with its margin is refused for one reason, and nothing is
drawn. -/
theorem randomRectMargin_of_not_fits {area : Area}
    {width height margin outerWidth outerHeight : UInt8}
    (h : outerWidth = 0 ∨ outerHeight = 0 ∨ area.width < outerWidth ∨ area.height < outerHeight) :
    ∃ e, ∀ s, randomRectMargin area width height margin outerWidth outerHeight s =
      (.error (.grid e), s) := by
  obtain ⟨e, he⟩ := Area.randomRect_of_not_fits h
  refine ⟨e, fun s => ?_⟩
  simp only [randomRectMargin, he]

/-- A rectangle that fits with its margin is the inner part of one that is drawn, whatever is
drawn. -/
theorem randomRectMargin_eq {area : Area} {width height margin outerWidth outerHeight : UInt8}
    (hwidth : width ≠ 0) (hheight : height ≠ 0)
    (hw : Board.withMargin width margin = some outerWidth)
    (hh : Board.withMargin height margin = some outerHeight)
    (h : ¬(outerWidth = 0 ∨ outerHeight = 0 ∨ area.width < outerWidth ∨
      area.height < outerHeight)) (s : WordStream) :
    ∃ outer, (area.randomRect outerWidth outerHeight s).1 = .ok outer ∧
      outer.width = outerWidth ∧ outer.height = outerHeight ∧ area.containsRect outer = true ∧
      Rect.make (outer.x + margin) (outer.y + margin) width height =
        .ok ⟨outer.x + margin, outer.y + margin, width, height⟩ ∧
      randomRectMargin area width height margin outerWidth outerHeight s =
        (.ok ⟨Rect.location ⟨outer.x + margin, outer.y + margin, width, height⟩, some outer⟩,
          (area.randomRect outerWidth outerHeight s).2) := by
  simp only [not_or, UInt8.not_lt] at h
  obtain ⟨hw0, hh0, hwa, hha⟩ := h
  obtain ⟨outer, t, houter, rfl, rfl, hin⟩ := Area.randomRect_of_fits hw0 hh0 hwa hha s
  have hinner := make_inner hwidth hheight (toNat_of_withMargin hw) (toNat_of_withMargin hh) hin
  refine ⟨outer, congrArg Prod.fst houter, rfl, rfl, hin, hinner, ?_⟩
  simp only [randomRectMargin, houter, hinner]

theorem randomRectMargin_of_fits {area : Area} {width height margin outerWidth outerHeight : UInt8}
    (hwidth : width ≠ 0) (hheight : height ≠ 0)
    (hw : Board.withMargin width margin = some outerWidth)
    (hh : Board.withMargin height margin = some outerHeight)
    (h : ¬(outerWidth = 0 ∨ outerHeight = 0 ∨ area.width < outerWidth ∨
      area.height < outerHeight)) (s : WordStream) :
    ∃ c, (randomRectMargin area width height margin outerWidth outerHeight s).1 = .ok c := by
  obtain ⟨_, -, -, -, -, -, hcandidate⟩ := randomRectMargin_eq hwidth hheight hw hh h s
  exact ⟨_, congrArg Prod.fst hcandidate⟩

theorem isSteady_randomRectMargin {area : Area} {width height margin outerWidth outerHeight : UInt8}
    (hwidth : width ≠ 0) (hheight : height ≠ 0)
    (hw : Board.withMargin width margin = some outerWidth)
    (hh : Board.withMargin height margin = some outerHeight) :
    (randomRectMargin area width height margin outerWidth outerHeight).IsSteady := by
  by_cases h : outerWidth = 0 ∨ outerHeight = 0 ∨ area.width < outerWidth ∨
      area.height < outerHeight
  · obtain ⟨e, he⟩ := randomRectMargin_of_not_fits h
    exact .inr ⟨.grid e, he⟩
  · exact .inl (randomRectMargin_of_fits hwidth hheight hw hh h)

/-! ### Turned masks -/

theorem fits_iff {area : Area} {m : Mask} :
    fits area m = true ↔ m.width ≤ area.width ∧ m.height ≤ area.height := by
  rw [fits, Bool.and_eq_true, decide_eq_true_eq, decide_eq_true_eq]

/-- If a mask fits in one of two rotations a quarter apart, then so does each rotation of it, a
quarter further if need be. -/
theorem fits_turned {area : Area} {m : Mask}
    (h : fits area m = true ∨ fits area m.turnRight = true) (t : Turn) :
    fits area (if fits area (m.turned t) then m.turned t else (m.turned t).turnRight) = true := by
  split
  · assumption
  · rename_i hturned
    cases t <;> simp only [Mask.turned, fits, Mask.width_turnLeft, Mask.height_turnLeft,
      Mask.width_turnRight, Mask.height_turnRight, Mask.width_turnOver, Mask.height_turnOver]
      at h hturned ⊢
    · exact h.resolve_left hturned
    · exact h.resolve_right hturned
    · exact h.resolve_right hturned
    · exact h.resolve_left hturned

/-- A mask that fits in one of its rotations is always given a place. -/
theorem randomMask_of_fits {area : Area} {m : Mask}
    (h : fits area m = true ∨ fits area m.turnRight = true) (s : WordStream) :
    ∃ c, (randomMask area m s).1 = .ok c := by
  have hfits : fits area (if fits area (m.randomTurn s).1 then (m.randomTurn s).1
      else (m.randomTurn s).1.turnRight) = true := fits_turned h (Turn.random s).1
  obtain ⟨hwidth, hheight⟩ := fits_iff.1 hfits
  obtain ⟨r, t, hr, -⟩ := Area.randomRect_of_fits (Mask.width_ne_zero _) (Mask.height_ne_zero _)
    hwidth hheight (m.randomTurn s).2
  dsimp only [randomMask]
  rw [hr]
  exact ⟨_, rfl⟩

theorem isSteady_randomMask {area : Area} {m : Mask}
    (h : fits area m = true ∨ fits area m.turnRight = true) : (randomMask area m).IsSteady :=
  .inl (randomMask_of_fits h)

end Candidate

namespace Board

variable {α β : Type} {b : Board α} {o : α} {sample : Sampler}

@[simp] theorem owner?_seek (s : WordStream) (d : Dot) : (b.seek s).owner? d = b.owner? d := rfl

@[simp] theorem objects_seek (s : WordStream) : (b.seek s).objects = b.objects := rfl

/-- The request failed, and left everything as it was. Only where the budget is exhausted has the
word stream moved. -/
def Refused (b : Board α) (outcome : Except BoardError β × Board α) : Prop :=
  ∃ e s, outcome = (.error e, b.seek s) ∧ (s = b.stream ∨ ∃ n, e = .retriesExhausted n)

/-- The object was not on the board, and was placed on a location that nobody claimed. -/
def Placed [DecidableEq α] (b : Board α) (o : α) (outcome : Except BoardError Location × Board α) :
    Prop :=
  ∃ l s, b.isRegistered o = false ∧ b.IsFree l ∧
    outcome = (.ok l, ((b.seek s).occupy o l).enlist o)

theorem refused_self (b : Board α) (e : BoardError) :
    b.Refused ((.error e, b) : Except BoardError β × Board α) :=
  ⟨e, b.stream, rfl, .inl rfl⟩

variable [DecidableEq α]

/-- A search tries one candidate, and goes on from where the candidate left the stream. -/
theorem placeWithin_succ (hreg : b.isRegistered o = false) (sample : Sampler) (n : Nat) :
    placeWithin o sample (n + 1) b =
      match (sample b.stream).1 with
      | .error e => (.error e, b.seek (sample b.stream).2)
      | .ok c =>
        if b.isClear c ∧ b.IsFree c.location then
          (.ok c.location, ((b.seek (sample b.stream).2).occupy o c.location).enlist o)
        else placeWithin o sample n (b.seek (sample b.stream).2) := by
  have hfree_iff (l : Location) : (b.seek (sample b.stream).2).IsFree l ↔ b.IsFree l := Iff.rfl
  have hclear_iff (c : Candidate) : (b.seek (sample b.stream).2).isClear c = b.isClear c := rfl
  rw [placeWithin]
  cases (sample b.stream).1 with
  | error e => rfl
  | ok c =>
    simp only [claim_eq, hfree_iff, hclear_iff]
    by_cases hclear : b.isClear c = true
    · by_cases hfree : b.IsFree c.location
      · simp only [hclear, hfree, and_self, if_true]
        rw [register_of_not_isRegistered (b := (b.seek (sample b.stream).2).occupy o c.location)
          hreg]
        rfl
      · simp only [hclear, hfree, and_false, if_true, if_false, Bool.false_eq_true]
    · simp only [hclear, false_and, if_false, Bool.false_eq_true]

/-- A search among candidates that are always proposed ends on a free one, or with its budget. -/
theorem placeWithin_cases (hreg : b.isRegistered o = false)
    (hsample : ∀ s, ∃ c, (sample s).1 = .ok c) (n : Nat) :
    (∃ s, placeWithin o sample n b = (.error (.retriesExhausted b.retries), b.seek s)) ∨
      b.Placed o (placeWithin o sample n b) := by
  induction n generalizing b with
  | zero => exact .inl ⟨b.stream, rfl⟩
  | succ n ih =>
    obtain ⟨c, hc⟩ := hsample b.stream
    rw [placeWithin_succ hreg, hc]
    dsimp only
    split
    · rename_i h
      exact .inr ⟨c.location, (sample b.stream).2, hreg, h.2, rfl⟩
    · exact ih (b := b.seek (sample b.stream).2) hreg

theorem place_cases (h : sample.IsSteady) :
    b.Refused (b.place o sample) ∨ b.Placed o (b.place o sample) := by
  rw [place]
  split
  · exact .inl (refused_self b _)
  · rename_i hreg
    rw [Bool.not_eq_true] at hreg
    rcases h with hok | ⟨e, he⟩
    · rcases placeWithin_cases hreg hok b.retries.toNat with ⟨s, hs⟩ | hplaced
      · exact .inl ⟨_, s, hs, .inr ⟨b.retries, rfl⟩⟩
      · exact .inr hplaced
    · -- the first candidate is refused, and with no budget there is not even a first
      left
      cases b.retries.toNat with
      | zero => exact refused_self b _
      | succ n =>
        rw [placeWithin_succ hreg, he]
        exact refused_self b e

theorem createRandomDot_cases (b : Board α) (o : α) :
    b.Refused (b.createRandomDot o) ∨ b.Placed o (b.createRandomDot o) :=
  place_cases (Candidate.isSteady_randomDot b.area)

theorem createRandomRect_cases (b : Board α) (o : α) (width height : UInt8) :
    b.Refused (b.createRandomRect o width height) ∨
      b.Placed o (b.createRandomRect o width height) :=
  place_cases (Candidate.isSteady_randomRect b.area width height)

theorem createRandomRectMargin_cases (b : Board α) (o : α) (width height margin : UInt8) :
    b.Refused (b.createRandomRectMargin o width height margin) ∨
      b.Placed o (b.createRandomRectMargin o width height margin) := by
  rw [createRandomRectMargin]
  split
  · exact .inl (refused_self b _)
  · rename_i hsides
    obtain ⟨hwidth, hheight⟩ := not_or.1 hsides
    split
    · rename_i hw hh
      exact place_cases (Candidate.isSteady_randomRectMargin hwidth hheight hw hh)
    · exact .inl (refused_self b _)

theorem createRandomMask_cases (b : Board α) (o : α) (m : Mask) :
    b.Refused (b.createRandomMask o m) ∨ b.Placed o (b.createRandomMask o m) := by
  rw [createRandomMask]
  split
  · exact .inl (refused_self b _)
  · split
    · rename_i hfits
      exact place_cases (Candidate.isSteady_randomMask (Bool.or_eq_true_iff.1 hfits))
    · exact .inl (refused_self b _)

end Board

end ClaimGrid
