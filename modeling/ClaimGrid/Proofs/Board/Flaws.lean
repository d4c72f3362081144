import Mathlib.Data.Nat.Basic
import ClaimGrid.Proofs.Board.Step
import ClaimGrid.Proofs.Shard.Lookup

/-!
# Requests whose arguments are at fault

Some requests no board of an area can grant: a location that is empty or leaves the area, a size
that does not fit, a mask without set cells. Such a flaw shows in the arguments alone, so the
request is refused whatever is on the board. Every other request is granted by some board that
requests lead to, and is refused only for what happens to be on the board.

An error that cannot be helped by asking again is a flaw. The converse fails at one place: a
rectangle that is placed at random is looked up in the registry before its size is looked at, so
that an object on the board hears of the clash and not of the flaw.

## Main definitions

* `BoardRequest.Flawed`: the arguments of a request are at fault.
* `BoardRequest.asked?`: the location that a request asks for.
* `BoardRequest.DrawsRect`: a request places a rectangle at random.
* `Board.SameRules`: two boards with the same area and the same retry budget.
* `Board.corner`: a place on every area.

## Main results

* `Board.exists_fault_of_flawed`: a flawed request has one fault, on every board.
* `Board.isRetriable_of_not_flawed`: any other request is refused with a retriable error only.
* `Board.exists_reachable_ok_of_not_flawed`: and it is granted by some board.
* `Board.refused_everywhere_of_not_retriable`, `Board.granted_somewhere_iff_of_retriable`: what the
  kind of an error says of all other boards.
-/

namespace ClaimGrid

namespace BoardRequest

variable {α : Type}

/-- The arguments of a request are at fault: the location that it asks for is empty or leaves the
area, the size that it asks for does not fit, or the mask has no set cell or fits in no rotation. -/
def Flawed (area : Area) : BoardRequest α → Prop
  | create _ l | createAvailable _ l | update _ _ l | updateAvailable _ _ l =>
      l = .empty ∨ ∃ d ∈ l, area.contains d = false
  | createRandomDot _ | delete .. => False
  | createRandomRect _ width height =>
      width = 0 ∨ height = 0 ∨ area.width < width ∨ area.height < height
  | createRandomRectMargin _ width height margin =>
      width = 0 ∨ height = 0 ∨ area.width.toNat < width.toNat + 2 * margin.toNat ∨
        area.height.toNat < height.toNat + 2 * margin.toNat
  | createRandomMask _ m =>
      m.count = 0 ∨ Candidate.fits area m = false ∧ Candidate.fits area m.turnRight = false

/-- The location that a request asks for, if it names one. -/
def asked? : BoardRequest α → Option Location
  | create _ l | createAvailable _ l | update _ _ l | updateAvailable _ _ l => some l
  | _ => none

/-- The request places a rectangle at random. -/
def DrawsRect : BoardRequest α → Prop
  | createRandomRect .. | createRandomRectMargin .. => True
  | _ => False

end BoardRequest

namespace Board

variable {α : Type} {b b' : Board α} {area : Area} {settings : BoardSettings}

/-! ### What requests leave alone -/

/-- The second board has the area and the retry budget of the first. -/
structure SameRules (b b' : Board α) : Prop where
  area_eq : b'.area = b.area
  retries_eq : b'.retries = b.retries

section Requests

variable [DecidableEq α] {o : α} {r : BoardRequest α} {e : BoardError}

theorem kept_sameRules (b : Board α) : Kept (SameRules b) where
  seek _ _ h := ⟨h.area_eq, h.retries_eq⟩
  occupy _ _ _ h := ⟨h.area_eq, h.retries_eq⟩
  release _ _ _ h := ⟨h.area_eq, h.retries_eq⟩
  enlist _ _ h := ⟨h.area_eq, h.retries_eq⟩
  strike _ _ h := ⟨h.area_eq, h.retries_eq⟩

/-- No request changes the area or the retry budget. -/
theorem sameRules_step (b : Board α) (r : BoardRequest α) : SameRules b (b.step r).2 :=
  (kept_sameRules b).step ⟨rfl, rfl⟩ r

/-- A board keeps the area and the retry budget that it was made with, and the budget allows at
least one candidate. -/
theorem Reachable.rules (h : Reachable area settings b) : b.area = area ∧ b.retries ≠ 0 := by
  induction h with
  | start hmake =>
    obtain ⟨hn, hb⟩ := make_eq_ok hmake
    refine ⟨by rw [hb], fun hzero => ?_⟩
    rw [hb] at hzero
    rw [make, BoardSettings.validate, if_pos hzero] at hmake
    split at hmake
    · cases hmake
    · rename_i hvalid
      split at hvalid <;> cases hvalid
  | step _ r ih =>
    obtain ⟨harea, hretries⟩ := sameRules_step _ r
    exact ⟨harea.trans ih.1, fun hzero => ih.2 (hretries.symm.trans hzero)⟩

theorem Reachable.exists_make (h : Reachable area settings b) :
    ∃ b₀ : Board α, Board.make area settings = .ok b₀ := by
  induction h with
  | start hmake => exact ⟨_, hmake⟩
  | step _ _ ih => exact ih

/-! ### Locations -/

omit [DecidableEq α] in
/-- A location that is empty or leaves the area is refused for one reason. -/
theorem checkLocation_of_flaw {l : Location} (h : l = .empty ∨ ∃ d ∈ l, area.contains d = false) :
    ∃ e : BoardError, e.kind = .validation ∧
      ∀ b : Board α, b.area = area → b.checkLocation l = .error e := by
  by_cases hempty : l.isEmpty = true
  · exact ⟨.emptyLocation, rfl, fun b _ => by rw [checkLocation, if_pos hempty]⟩
  · have houtside : area.containsLocation l = false := by
      rcases h with rfl | ⟨d, hd, hcontains⟩
      · exact absurd rfl hempty
      · exact List.all_eq_false.2 ⟨d, hd, by rw [hcontains]; exact Bool.false_ne_true⟩
    refine ⟨.locationOutOfArea area, rfl, fun b hb => ?_⟩
    rw [checkLocation, if_neg hempty, hb, houtside]
    rfl

omit [DecidableEq α] in
theorem checkLocation_of_not_flaw {l : Location}
    (h : ¬(l = .empty ∨ ∃ d ∈ l, b.area.contains d = false)) : b.checkLocation l = .ok () := by
  obtain ⟨hempty, hinside⟩ := not_or.1 h
  have hdots : l.isEmpty = false := Bool.eq_false_iff.2 fun hdots =>
    hempty (congrArg Location.mk (List.isEmpty_iff.1 hdots))
  have hcontains : b.area.containsLocation l = true := List.all_eq_true.2 fun d hd => by
    by_contra hd'
    exact hinside ⟨d, hd, Bool.eq_false_iff.2 hd'⟩
  rw [checkLocation, hdots, hcontains]
  rfl

/-! ### Searches -/

variable {sample : Sampler}

theorem place_of_isRegistered (h : b.isRegistered o = true) (sample : Sampler) :
    b.place o sample = (.error .objectAlreadyRegistered, b) := if_pos h

/-- A search among candidates that are refused is refused in the same way, once the object is known
to be new, and draws nothing. -/
theorem place_of_refused (hreg : b.isRegistered o = false) (hretries : b.retries ≠ 0)
    (h : ∀ s, sample s = (.error e, s)) : b.place o sample = (.error e, b) := by
  have hpos : b.retries.toNat ≠ 0 := fun hzero => hretries (UInt32.toNat_inj.1 hzero)
  obtain ⟨n, hn⟩ := Nat.exists_eq_succ_of_ne_zero hpos
  rw [place, hreg, hn, if_neg Bool.false_ne_true, placeWithin_succ hreg, h]
  rfl

/-- A search among candidates that are always proposed is refused only for what is on the board. -/
theorem isRetriable_of_place (h : ∀ s, ∃ c, (sample s).1 = .ok c)
    (he : (b.place o sample).1 = .error e) : e.kind.isRetriable = true := by
  cases hreg : b.isRegistered o with
  | true =>
    rw [place_of_isRegistered hreg] at he
    cases he
    rfl
  | false =>
    rw [place, hreg, if_neg Bool.false_ne_true] at he
    rcases placeWithin_cases hreg h b.retries.toNat with ⟨s, hs⟩ | ⟨l, s, -, -, hs⟩
    · rw [hs] at he
      cases he
      rfl
    · rw [hs] at he
      cases he

/-- On a board without claims the first candidate is taken. -/
theorem place_of_vacant (hreg : b.isRegistered o = false) (hretries : b.retries ≠ 0)
    (hvacant : ∀ d, b.owner? d = none) (h : ∀ s, ∃ c, (sample s).1 = .ok c) :
    ∃ l, (b.place o sample).1 = .ok l := by
  have hpos : b.retries.toNat ≠ 0 := fun hzero => hretries (UInt32.toNat_inj.1 hzero)
  obtain ⟨n, hn⟩ := Nat.exists_eq_succ_of_ne_zero hpos
  obtain ⟨c, hc⟩ := h b.stream
  have hclear : b.isClear c = true := by
    rw [isClear]
    cases c.clearance with
    | none => rfl
    | some outer =>
      dsimp only
      rw [ShardMap.hasAny_eq, Bool.not_eq_true', List.any_eq_false]
      intro k hk
      have hk' := hvacant (.ofKey k)
      rw [owner?, Dot.key_ofKey] at hk'
      rw [ShardMap.contains_eq_isSome, hk']
      exact Bool.false_ne_true
  refine ⟨c.location, ?_⟩
  rw [place, hreg, hn, if_neg Bool.false_ne_true, placeWithin_succ hreg, hc]
  dsimp only
  rw [if_pos ⟨hclear, fun d _ => hvacant d⟩]

/-! ### Answers with and without a location -/

omit [DecidableEq α] in
@[simp] theorem withoutLocation_eq_error {outcome : Except BoardError Unit × Board α} :
    (withoutLocation outcome).1 = .error e ↔ outcome.1 = .error e := by
  rw [withoutLocation]
  cases outcome.1 <;> simp [Except.map]

omit [DecidableEq α] in
@[simp] theorem withLocation_eq_error {outcome : Except BoardError Location × Board α} :
    (withLocation outcome).1 = .error e ↔ outcome.1 = .error e := by
  rw [withLocation]
  cases outcome.1 <;> simp [Except.map]

omit [DecidableEq α] in
theorem exists_withoutLocation_eq_ok {outcome : Except BoardError Unit × Board α}
    (h : outcome.1 = .ok ()) : ∃ answer, (withoutLocation outcome).1 = .ok answer :=
  ⟨none, withoutLocation_of_ok h⟩

omit [DecidableEq α] in
theorem exists_withLocation_eq_ok {outcome : Except BoardError Location × Board α}
    (h : ∃ l, outcome.1 = .ok l) : ∃ answer, (withLocation outcome).1 = .ok answer := by
  obtain ⟨l, hl⟩ := h
  exact ⟨some l, withLocation_of_ok hl⟩

/-! ### Flawed requests -/

/-- The location that a request asks for is looked at before anything else. -/
theorem step_of_checkLocation {l : Location} (hr : r.asked? = some l)
    (h : b.checkLocation l = .error e) : (b.step r).1 = .error e := by
  cases r with
  | create o l' =>
    obtain rfl := Option.some.inj hr
    rw [step, withoutLocation_eq_error, create_eq, h]
  | createAvailable o l' =>
    obtain rfl := Option.some.inj hr
    rw [step, withLocation_eq_error, createAvailable_eq, h]
  | update o old l' =>
    obtain rfl := Option.some.inj hr
    rw [step, withoutLocation_eq_error, update_eq, h]
  | updateAvailable o old l' =>
    obtain rfl := Option.some.inj hr
    rw [step, withLocation_eq_error, updateAvailable_eq, h]
  | _ => cases hr

/-- A rectangle that does not fit is refused for that, or because the object is on the board. -/
theorem place_of_flaw (hretries : b.retries ≠ 0) (h : ∀ s, sample s = (.error e, s)) :
    (b.place o sample).1 = .error e ∨
      ((b.place o sample).1 = .error .objectAlreadyRegistered ∧ o ∈ b.objects) := by
  cases hreg : b.isRegistered o with
  | true => exact .inr ⟨by rw [place_of_isRegistered hreg], isRegistered_iff.1 hreg⟩
  | false => exact .inl (by rw [place_of_refused hreg hretries h])

omit [DecidableEq α] in
/-- Of two positive sides with their margins, one is too long for the area if they do not fit. -/
theorem outer_flaw_iff {width height margin outerWidth outerHeight : UInt8}
    (hsides : ¬(width = 0 ∨ height = 0)) (hw : withMargin width margin = some outerWidth)
    (hh : withMargin height margin = some outerHeight) :
    (outerWidth = 0 ∨ outerHeight = 0 ∨ area.width < outerWidth ∨ area.height < outerHeight) ↔
      (area.width.toNat < width.toNat + 2 * margin.toNat ∨
        area.height.toNat < height.toNat + 2 * margin.toNat) := by
  have hwidth := Candidate.toNat_of_withMargin hw
  have hheight := Candidate.toNat_of_withMargin hh
  simp only [← UInt8.toNat_inj, UInt8.toNat_zero] at hsides ⊢
  rw [UInt8.lt_iff_toNat_lt, UInt8.lt_iff_toNat_lt, ← hwidth, ← hheight]
  omega

/-- A rectangle without a side, or whose margins make a side too long for any area. -/
theorem createRandomRectMargin_of_no_outer {width height margin : UInt8}
    (h : (width = 0 ∨ height = 0) ∨ withMargin width margin = none ∨
      withMargin height margin = none) (b : Board α) (o : α) :
    b.createRandomRectMargin o width height margin =
      (.error (.grid (.invalidRect 0 0 width height)), b) := by
  rw [createRandomRectMargin]
  rcases h with hsides | hw | hh
  · rw [if_pos hsides]
  · rw [hw, ite_self]
  · rw [hh]
    cases withMargin width margin <;> rw [ite_self]

theorem createRandomRectMargin_of_outer {width height margin outerWidth outerHeight : UInt8}
    (hsides : ¬(width = 0 ∨ height = 0)) (hw : withMargin width margin = some outerWidth)
    (hh : withMargin height margin = some outerHeight) :
    b.createRandomRectMargin o width height margin =
      b.place o (Candidate.randomRectMargin b.area width height margin outerWidth outerHeight) := by
  rw [createRandomRectMargin, if_neg hsides, hw, hh]

/-- A flawed request has one fault, which it is refused for on every board of the area. Only where
the request places a rectangle at random does an object on the board get another answer. -/
theorem exists_fault_of_flawed (h : r.Flawed area) :
    ∃ e : BoardError, e.kind = .validation ∧ ∀ b : Board α, b.area = area → b.retries ≠ 0 →
      (b.step r).1 = .error e ∨
        ((b.step r).1 = .error .objectAlreadyRegistered ∧ r.object ∈ b.objects ∧ r.DrawsRect) := by
  cases r with
  | create | createAvailable | update | updateAvailable =>
    obtain ⟨e, hkind, hcheck⟩ := checkLocation_of_flaw (α := α) h
    exact ⟨e, hkind, fun b hb _ => .inl (step_of_checkLocation rfl (hcheck b hb))⟩
  | createRandomDot o => exact absurd h id
  | delete o l => exact absurd h id
  | createRandomRect o width height =>
    obtain ⟨e, he⟩ := Candidate.randomRect_of_not_fits h
    refine ⟨.grid e, rfl, fun b hb hretries => ?_⟩
    rw [step, withLocation_eq_error, withLocation_eq_error, createRandomRect, hb]
    exact (place_of_flaw hretries he).imp_right fun hlisted => ⟨hlisted.1, hlisted.2, trivial⟩
  | createRandomRectMargin o width height margin =>
    by_cases hinvalid : (width = 0 ∨ height = 0) ∨ withMargin width margin = none ∨
        withMargin height margin = none
    · refine ⟨.grid (.invalidRect 0 0 width height), rfl,
        fun b _ _ => .inl (withLocation_eq_error.2 ?_)⟩
      rw [createRandomRectMargin_of_no_outer hinvalid]
    · obtain ⟨hsides, houter⟩ := not_or.1 hinvalid
      obtain ⟨hwidth, hheight⟩ := not_or.1 houter
      obtain ⟨outerWidth, hw⟩ := Option.ne_none_iff_exists'.1 hwidth
      obtain ⟨outerHeight, hh⟩ := Option.ne_none_iff_exists'.1 hheight
      obtain ⟨e, he⟩ := Candidate.randomRectMargin_of_not_fits
        ((outer_flaw_iff hsides hw hh).2 (or_assoc.2 h |>.resolve_left hsides))
      refine ⟨.grid e, rfl, fun b hb hretries => ?_⟩
      rw [step, withLocation_eq_error, withLocation_eq_error,
        createRandomRectMargin_of_outer hsides hw hh, hb]
      exact (place_of_flaw hretries he).imp_right fun hlisted => ⟨hlisted.1, hlisted.2, trivial⟩
  | createRandomMask o m =>
    rcases h with hcount | ⟨hfits, hturned⟩
    · refine ⟨.emptyLocation, rfl, fun b _ _ => .inl (withLocation_eq_error.2 ?_)⟩
      rw [createRandomMask, if_pos hcount]
    · by_cases hcount : m.count = 0
      · refine ⟨.emptyLocation, rfl, fun b _ _ => .inl (withLocation_eq_error.2 ?_)⟩
        rw [createRandomMask, if_pos hcount]
      · refine ⟨.grid (.rectDoesNotFit m.width m.height area.width area.height), rfl,
          fun b hb _ => .inl (withLocation_eq_error.2 ?_)⟩
        rw [createRandomMask, if_neg hcount, hb, hfits, hturned]
        rfl

/-- No board grants a flawed request. -/
theorem ne_ok_of_flawed (h : r.Flawed area) (hb : Reachable area settings b) (answer : Answer) :
    (b.step r).1 ≠ .ok answer := by
  intro hanswer
  obtain ⟨harea, hretries⟩ := hb.rules
  obtain ⟨fault, -, hfault⟩ := exists_fault_of_flawed h
  rcases hfault b harea hretries with hstep | ⟨hstep, -⟩ <;>
  · rw [hanswer] at hstep
    cases hstep

/-! ### Other requests -/

omit [DecidableEq α] in
theorem exists_withMargin {side margin limit : UInt8}
    (h : ¬limit.toNat < side.toNat + 2 * margin.toNat) :
    ∃ outer, withMargin side margin = some outer := by
  have hlimit := limit.toNat_lt
  exact ⟨_, if_pos (by omega)⟩

omit [DecidableEq α] in
/-- With its margins a rectangle without a flaw has sides that fit. -/
theorem exists_outer_of_not_flawed {width height margin : UInt8}
    (h : ¬(BoardRequest.createRandomRectMargin o width height margin).Flawed area) :
    ∃ outerWidth outerHeight, ¬(width = 0 ∨ height = 0) ∧
      withMargin width margin = some outerWidth ∧ withMargin height margin = some outerHeight ∧
      ¬(outerWidth = 0 ∨ outerHeight = 0 ∨ area.width < outerWidth ∨
        area.height < outerHeight) := by
  simp only [BoardRequest.Flawed, not_or] at h
  obtain ⟨hwidth, hheight, hwa, hha⟩ := h
  obtain ⟨outerWidth, hw⟩ := exists_withMargin hwa
  obtain ⟨outerHeight, hh⟩ := exists_withMargin hha
  have hsides : ¬(width = 0 ∨ height = 0) := not_or.2 ⟨hwidth, hheight⟩
  exact ⟨outerWidth, outerHeight, hsides, hw, hh,
    mt (outer_flaw_iff hsides hw hh).1 (not_or.2 ⟨hwa, hha⟩)⟩

theorem createRandomRectMargin_of_not_flawed {width height margin : UInt8}
    (h : ¬(BoardRequest.createRandomRectMargin o width height margin).Flawed b.area) :
    ∃ sample : Sampler, (∀ s, ∃ c, (sample s).1 = .ok c) ∧
      b.createRandomRectMargin o width height margin = b.place o sample := by
  obtain ⟨outerWidth, outerHeight, hsides, hw, hh, houter⟩ := exists_outer_of_not_flawed h
  obtain ⟨hwidth, hheight⟩ := not_or.1 hsides
  exact ⟨_, Candidate.randomRectMargin_of_fits hwidth hheight hw hh houter,
    createRandomRectMargin_of_outer hsides hw hh⟩

theorem createRandomMask_of_not_flawed {m : Mask}
    (h : ¬(BoardRequest.createRandomMask o m).Flawed b.area) :
    (∀ s, ∃ c, (Candidate.randomMask b.area m s).1 = .ok c) ∧
      b.createRandomMask o m = b.place o (Candidate.randomMask b.area m) := by
  obtain ⟨hcount, hnone⟩ := not_or.1 h
  have hfits : Candidate.fits b.area m = true ∨ Candidate.fits b.area m.turnRight = true := by
    by_contra hneither
    rw [not_or, Bool.not_eq_true, Bool.not_eq_true] at hneither
    exact hnone hneither
  refine ⟨Candidate.randomMask_of_fits hfits, ?_⟩
  rw [createRandomMask, if_neg hcount, if_pos (Bool.or_eq_true_iff.2 hfits)]

/-- A request without a flaw is refused only for what is on the board. -/
theorem isRetriable_of_not_flawed (h : ¬r.Flawed b.area) (he : (b.step r).1 = .error e) :
    e.kind.isRetriable = true := by
  cases r with
  | create o l =>
    rw [step, withoutLocation_eq_error, create_eq, checkLocation_of_not_flaw h] at he
    dsimp only at he
    split at he
    · cases he
      rfl
    · split at he <;> cases he
      rfl
  | createAvailable o l =>
    rw [step, withLocation_eq_error, createAvailable_eq, checkLocation_of_not_flaw h] at he
    dsimp only at he
    split at he <;> cases he
    rfl
  | createRandomDot o =>
    exact isRetriable_of_place (fun _ => ⟨_, rfl⟩) (withLocation_eq_error.1 he)
  | createRandomRect o width height =>
    exact isRetriable_of_place (Candidate.randomRect_of_fits h) (withLocation_eq_error.1 he)
  | createRandomRectMargin o width height margin =>
    obtain ⟨sample, hsample, hplace⟩ := createRandomRectMargin_of_not_flawed h
    rw [step, withLocation_eq_error, hplace] at he
    exact isRetriable_of_place hsample he
  | createRandomMask o m =>
    obtain ⟨hsample, hplace⟩ := createRandomMask_of_not_flawed h
    rw [step, withLocation_eq_error, hplace] at he
    exact isRetriable_of_place hsample he
  | update o old new =>
    rw [step, withoutLocation_eq_error, update_eq, checkLocation_of_not_flaw h] at he
    dsimp only at he
    split at he
    · split at he <;> cases he
      rfl
    · cases he
      rfl
  | updateAvailable o old new =>
    rw [step, withLocation_eq_error, updateAvailable_eq, checkLocation_of_not_flaw h] at he
    dsimp only at he
    split at he
    · split at he <;> cases he
      rfl
    · cases he
      rfl
  | delete o l =>
    rw [step, withoutLocation_eq_error, delete_eq] at he
    split at he <;> cases he
    rfl

/-- A new object enters on a location that nobody claims. -/
theorem create_of_isFree {l : Location} (hcheck : b.checkLocation l = .ok ())
    (hreg : b.isRegistered o = false) (hfree : b.IsFree l) :
    b.create o l = (.ok (), (b.occupy o l).enlist o) := by
  rw [create_eq, hcheck]
  dsimp only
  rw [if_neg (Bool.eq_false_iff.1 hreg), if_pos hfree]

/-- A new object enters with what it can have of a location. -/
theorem createAvailable_of_checkLocation {l : Location} (hcheck : b.checkLocation l = .ok ())
    (hreg : b.isRegistered o = false) :
    b.createAvailable o l = (.ok (b.freePart l), (b.occupy o (b.freePart l)).enlist o) := by
  rw [createAvailable_eq, hcheck]
  dsimp only
  rw [if_neg (Bool.eq_false_iff.1 hreg)]

/-- An object on the board can leave, whatever it says it has. -/
theorem delete_of_isRegistered (hreg : b.isRegistered o = true) (l : Location) :
    b.delete o l = (.ok (), (b.release o l).strike o) := by
  rw [delete_eq, if_pos hreg]

/-- An object that is not on a board without claims enters it by any request without a flaw. -/
theorem step_ok_of_vacant (h : ¬r.Flawed b.area) (heffect : r.effect = .create)
    (hnew : r.object ∉ b.objects) (hretries : b.retries ≠ 0) (hvacant : ∀ d, b.owner? d = none) :
    ∃ answer, (b.step r).1 = .ok answer := by
  have hreg : b.isRegistered r.object = false := isRegistered_eq_false_iff.2 hnew
  cases r with
  | create o l =>
    have hfree : b.IsFree l := fun d _ => hvacant d
    exact exists_withoutLocation_eq_ok
      (congrArg Prod.fst (create_of_isFree (checkLocation_of_not_flaw h) hreg hfree))
  | createAvailable o l =>
    exact exists_withLocation_eq_ok ⟨b.freePart l,
      congrArg Prod.fst (createAvailable_of_checkLocation (checkLocation_of_not_flaw h) hreg)⟩
  | createRandomDot o =>
    exact exists_withLocation_eq_ok (place_of_vacant hreg hretries hvacant fun _ => ⟨_, rfl⟩)
  | createRandomRect o width height =>
    exact exists_withLocation_eq_ok
      (place_of_vacant hreg hretries hvacant (Candidate.randomRect_of_fits h))
  | createRandomRectMargin o width height margin =>
    obtain ⟨sample, hsample, hplace⟩ := createRandomRectMargin_of_not_flawed h
    refine exists_withLocation_eq_ok ?_
    rw [hplace]
    exact place_of_vacant hreg hretries hvacant hsample
  | createRandomMask o m =>
    obtain ⟨hsample, hplace⟩ := createRandomMask_of_not_flawed h
    refine exists_withLocation_eq_ok ?_
    rw [hplace]
    exact place_of_vacant hreg hretries hvacant hsample
  | update | updateAvailable | delete => cases heffect

/-- An object on a board without claims may move to any location without a flaw, and leave. -/
theorem step_ok_of_listed (h : ¬r.Flawed b.area) (heffect : r.effect ≠ .create)
    (hlisted : r.object ∈ b.objects) (hvacant : ∀ d, b.owner? d = none) :
    ∃ answer, (b.step r).1 = .ok answer := by
  cases r with
  | update o old new =>
    have hfree : b.IsFree (new.difference old) := fun d _ => hvacant d
    refine exists_withoutLocation_eq_ok ?_
    rw [update_of_listed (o := o) hlisted (checkLocation_of_not_flaw h), if_pos hfree]
  | updateAvailable o old new =>
    have hreach : b.reach old new = new := reach_eq_self_iff.2 fun d _ => hvacant d
    have hcheck : b.checkLocation new = .ok () := checkLocation_of_not_flaw h
    refine exists_withLocation_eq_ok ⟨new, ?_⟩
    rw [updateAvailable_of_listed (o := o) hlisted hcheck, hreach,
      isEmpty_of_checkLocation hcheck, if_neg Bool.false_ne_true]
  | delete o l =>
    have hreg : b.isRegistered o = true := isRegistered_iff.2 hlisted
    exact exists_withoutLocation_eq_ok (congrArg Prod.fst (delete_of_isRegistered hreg l))
  | _ => exact absurd rfl heffect

/-! ### Boards on which a request is granted -/

/-- The corner, which is a place on every area. -/
def corner : Location := .ofDot ⟨0, 0⟩

omit [DecidableEq α] in
theorem checkLocation_corner (b : Board α) : b.checkLocation corner = .ok () := by
  have hwidth : (0 : UInt8) < b.area.width := UInt8.lt_iff_toNat_lt.2 b.area.width_pos
  have hheight : (0 : UInt8) < b.area.height := UInt8.lt_iff_toNat_lt.2 b.area.height_pos
  refine checkLocation_of_not_flaw ?_
  rintro (hempty | ⟨d, hd, houtside⟩)
  · cases hempty
  · obtain rfl : d = ⟨0, 0⟩ := List.mem_singleton.1 hd
    rw [Area.contains, decide_eq_true hwidth, decide_eq_true hheight] at houtside
    cases houtside

/-- Any object can be alone on a board, with the corner for itself. -/
theorem exists_corner_claimed (hmake : make area settings = .ok b) (p : α) :
    ∃ b' : Board α, Reachable area settings b' ∧ b'.objects = [p] ∧
      ∀ d, b'.owner? d = if d ∈ corner then some p else none := by
  have hnew : b.isRegistered p = false := by
    rw [isRegistered, objects_of_make hmake]
    rfl
  have hcreate := create_of_isFree (checkLocation_corner b) hnew fun d _ => owner?_of_make hmake d
  have hstep : (b.step (.create p corner)).2 = (b.occupy p corner).enlist p :=
    congrArg Prod.snd hcreate
  refine ⟨(b.occupy p corner).enlist p, hstep ▸ (Reachable.start hmake).step _, ?_, fun d => ?_⟩
  · rw [objects_enlist, objects_occupy, objects_of_make hmake]
    rfl
  · rw [owner?_enlist, owner?_occupy, owner?_of_make hmake]

/-- An object can be on a board without claims: it entered with what was left of a dot that another
object had, and that object is gone. There has to be another one for that. -/
theorem exists_listed_vacant [Nontrivial α] (hmake : make area settings = .ok b) (o : α) :
    ∃ b' : Board α, Reachable area settings b' ∧ o ∈ b'.objects ∧ ∀ d, b'.owner? d = none := by
  obtain ⟨p, hp⟩ := exists_ne o
  obtain ⟨b₁, hb₁, hobjects₁, howner₁⟩ := exists_corner_claimed hmake p
  -- `o` asks for the corner, and enters without it
  have hnew : b₁.isRegistered o = false := by
    rw [isRegistered_eq_false_iff, hobjects₁, List.mem_singleton]
    exact hp.symm
  let b₂ := (b₁.occupy o (b₁.freePart corner)).enlist o
  have hstep₂ : (b₁.step (.createAvailable o corner)).2 = b₂ :=
    congrArg Prod.snd (createAvailable_of_checkLocation (checkLocation_corner b₁) hnew)
  have hobjects₂ : b₂.objects = [p, o] := by
    rw [objects_enlist, objects_occupy, hobjects₁]
    rfl
  have howner₂ (d : Dot) : b₂.owner? d = b₁.owner? d := by
    rw [owner?_enlist, owner?_occupy, if_neg]
    intro hd
    obtain ⟨hcorner, hnone⟩ := mem_freePart.1 hd
    rw [howner₁, if_pos hcorner] at hnone
    cases hnone
  -- `p` leaves, and gives the corner back
  have hlisted : b₂.isRegistered p = true := by
    rw [isRegistered_iff, hobjects₂]
    exact List.mem_cons_self
  have hstep₃ : (b₂.step (.delete p corner)).2 = (b₂.release p corner).strike p :=
    congrArg Prod.snd (delete_of_isRegistered hlisted corner)
  have hb₂ : Reachable area settings b₂ := hstep₂ ▸ hb₁.step _
  refine ⟨_, hstep₃ ▸ hb₂.step _, ?_, fun d => ?_⟩
  · rw [objects_strike, objects_release, hobjects₂, List.erase_cons_head]
    exact List.mem_cons_self
  · rw [owner?_strike, owner?_release, howner₂, howner₁]
    by_cases hd : d ∈ corner
    · rw [if_pos hd, if_pos ⟨hd, rfl⟩]
    · rw [if_neg hd, if_neg fun h => hd h.1]

/-- Every request without a flaw is granted on some board that requests lead to. -/
theorem exists_reachable_ok_of_not_flawed [Nontrivial α] (hmake : make area settings = .ok b)
    (h : ¬r.Flawed area) :
    ∃ b' : Board α, Reachable area settings b' ∧ ∃ answer, (b'.step r).1 = .ok answer := by
  by_cases heffect : r.effect = .create
  · have hb := Reachable.start hmake
    obtain ⟨rfl, hretries⟩ := hb.rules
    have hnew : r.object ∉ b.objects := by
      rw [objects_of_make hmake]
      exact List.not_mem_nil
    exact ⟨b, hb, step_ok_of_vacant h heffect hnew hretries (owner?_of_make hmake)⟩
  · obtain ⟨b', hb', hlisted, hvacant⟩ := exists_listed_vacant hmake r.object
    obtain ⟨rfl, -⟩ := hb'.rules
    exact ⟨b', hb', step_ok_of_listed h heffect hlisted hvacant⟩

/-! ### What the kind of an error says -/

/-- A request whose error is not worth a retry is refused on every other board of the playground,
wherever its word stream stands. The answer is that error again, or the clash of an object that is
on the board. -/
theorem refused_everywhere_of_not_retriable (hb : Reachable area settings b)
    (he : (b.step r).1 = .error e) (hkind : e.kind.isRetriable = false)
    (hb' : Reachable area settings b') (s : WordStream) :
    ∃ e', ((b'.seek s).step r).1 = .error e' ∧ (e' = e ∨ e' = .objectAlreadyRegistered) := by
  obtain ⟨rfl, hretries⟩ := hb.rules
  obtain ⟨harea, hretries'⟩ := hb'.rules
  have hflawed : r.Flawed b.area := by
    by_contra hflawed
    rw [isRetriable_of_not_flawed hflawed he] at hkind
    cases hkind
  obtain ⟨fault, -, hfault⟩ := exists_fault_of_flawed hflawed
  have hsame : fault = e := by
    rcases hfault b rfl hretries with hstep | ⟨hstep, -⟩
    · rw [he] at hstep
      exact (Except.error.inj hstep).symm
    · rw [he] at hstep
      obtain rfl := Except.error.inj hstep
      cases hkind
  rcases hfault (b'.seek s) harea hretries' with hstep | ⟨hstep, -⟩
  · exact ⟨fault, hstep, .inl hsame⟩
  · exact ⟨_, hstep, .inr rfl⟩

/-- A rectangle of five columns is refused on an empty board of four, and again after its object was
put on the board in another way. -/
theorem refused_everywhere_of_not_retriable_wide :
    ∃ b : Board Nat, Board.make ⟨4, 4, by decide, by decide⟩ {} = .ok b ∧
      let r : BoardRequest Nat := .createRandomRect 0 5 1
      let listed := (b.step (.create 0 (.ofDot ⟨0, 0⟩))).2
      (b.step r).1 = .error (.grid (.rectDoesNotFit 5 1 4 4)) ∧
        ∀ s, ∃ e', ((listed.seek s).step r).1 = .error e' ∧
          (e' = .grid (.rectDoesNotFit 5 1 4 4) ∨ e' = .objectAlreadyRegistered) := by
  refine ⟨_, rfl, ?_⟩
  intro r listed
  have hb : Reachable (α := Nat) ⟨4, 4, by decide, by decide⟩ {} _ := .start rfl
  exact ⟨rfl, refused_everywhere_of_not_retriable hb rfl rfl (hb.step _)⟩

/-- An error that is worth a retry comes from a request that some board of the playground grants,
unless the request is flawed. That happens only where a rectangle is to be placed at random for an
object that is on the board. -/
theorem granted_somewhere_iff_of_retriable [Nontrivial α] (hb : Reachable area settings b)
    (he : (b.step r).1 = .error e) (hkind : e.kind.isRetriable = true) :
    ((∃ b' : Board α, Reachable area settings b' ∧ ∃ answer, (b'.step r).1 = .ok answer) ↔
      ¬r.Flawed area) ∧
    (r.Flawed area → r.DrawsRect ∧ e = .objectAlreadyRegistered ∧ r.object ∈ b.objects) := by
  refine ⟨⟨?_, fun hflawed => ?_⟩, fun hflawed => ?_⟩
  · rintro ⟨b', hb', answer, hanswer⟩ hflawed
    exact ne_ok_of_flawed hflawed hb' answer hanswer
  · obtain ⟨b₀, hmake⟩ := hb.exists_make
    exact exists_reachable_ok_of_not_flawed hmake hflawed
  · obtain ⟨harea, hretries⟩ := hb.rules
    obtain ⟨fault, hvalidation, hfault⟩ := exists_fault_of_flawed hflawed
    rcases hfault b harea hretries with hstep | ⟨hstep, hlisted, hdraws⟩
    · rw [he] at hstep
      obtain rfl := Except.error.inj hstep
      rw [hvalidation] at hkind
      cases hkind
    · rw [he] at hstep
      exact ⟨hdraws, Except.error.inj hstep, hlisted⟩

/-- On the board of four columns with an object, the same object is refused a random dot. A random
dot has no flaw, so some board grants it. -/
theorem granted_somewhere_iff_of_retriable_dot :
    ∃ b : Board Nat, Reachable ⟨4, 4, by decide, by decide⟩ {} b ∧
      (b.step (.createRandomDot 0)).1 = .error .objectAlreadyRegistered ∧
      ∃ b' : Board Nat, Reachable ⟨4, 4, by decide, by decide⟩ {} b' ∧
        ∃ answer, (b'.step (.createRandomDot 0)).1 = .ok answer := by
  have hb : Reachable ⟨4, 4, by decide, by decide⟩ {} _ :=
    (Reachable.start rfl).step (.create 0 (.ofDot ⟨0, 0⟩))
  refine ⟨_, hb, rfl, ?_⟩
  exact (granted_somewhere_iff_of_retriable (r := .createRandomDot 0)
    (e := .objectAlreadyRegistered) hb rfl rfl).1.2 id

/-- On the same board the object is refused a rectangle of five columns with a retriable error, and
no board of the playground ever grants that. -/
theorem retriable_yet_never_granted :
    ∃ (b : Board Nat) (e : BoardError), Reachable ⟨4, 4, by decide, by decide⟩ {} b ∧
      (b.step (.createRandomRect 0 5 1)).1 = .error e ∧ e.kind.isRetriable = true ∧
      ∀ b' : Board Nat, Reachable ⟨4, 4, by decide, by decide⟩ {} b' →
        ∀ answer, (b'.step (.createRandomRect 0 5 1)).1 ≠ .ok answer := by
  have hb : Reachable ⟨4, 4, by decide, by decide⟩ {} _ :=
    (Reachable.start rfl).step (.create 0 (.ofDot ⟨0, 0⟩))
  refine ⟨_, .objectAlreadyRegistered, hb, rfl, rfl, fun b' hb' => ?_⟩
  exact ne_ok_of_flawed (.inr (.inr (.inl (by decide)))) hb'

end Requests

end Board

end ClaimGrid
