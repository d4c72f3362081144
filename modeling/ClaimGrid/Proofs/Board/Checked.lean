import ClaimGrid.Proofs.Board.Refusal
import ClaimGrid.Proofs.Grid.Checked

/-!
# Requests that never overflow

The requests once more, with an arithmetic on coordinates that gives up where a result does not fit
its width. Only random placements compute coordinates: a rectangle is drawn, its margin added, its
dots listed, and the sides of a mask are narrowed. None of this ever gives up, whatever is drawn, so
each request has the outcome that it has anyway.

## Main definitions

* `Candidate.randomRectChecked?`, `Candidate.randomRectMarginChecked?`,
  `Candidate.randomMaskChecked?`: the samplers with that arithmetic.
* `Candidate.StaysInside`: a candidate lies in an area.
* `Board.stepChecked?`, `Board.traceChecked?`: the answer to a request and the board after it, and
  those of a list of requests, with that arithmetic.

## Main results

* `Candidate.staysInside_randomDot`, `Candidate.staysInside_randomRect`,
  `Candidate.staysInside_randomRectMargin`, `Candidate.staysInside_randomMask`: every candidate that
  is proposed lies in the area.
* `Board.stepChecked?_eq`, `Board.traceChecked?_eq`: no request overflows, and no run.
-/

namespace ClaimGrid

/-! ### Samplers -/

/-- A sampler that gives up where a coordinate overflows. -/
abbrev CheckedSampler := WordStream → Option (Except BoardError Candidate × WordStream)

namespace Candidate

/-- A rectangle inside the area. -/
def randomRectChecked? (area : Area) (width height : UInt8) : CheckedSampler := fun s => do
  let drawn ← area.randomRectChecked? width height s
  match drawn.1 with
  | .error e => some (.error (.grid e), drawn.2)
  | .ok r =>
    let l ← r.locationChecked?
    some (.ok ⟨l, none⟩, drawn.2)

/-- The inner part of a rectangle inside the area. The margin is added to the drawn corner as an
8-bit number. -/
def randomRectMarginChecked? (area : Area)
    (width height margin outerWidth outerHeight : UInt8) : CheckedSampler := fun s => do
  let drawn ← area.randomRectChecked? outerWidth outerHeight s
  match drawn.1 with
  | .error e => some (.error (.grid e), drawn.2)
  | .ok outer =>
    let x ← add8? outer.x margin
    let y ← add8? outer.y margin
    match ← Rect.makeChecked? x y width height with
    | .error e => some (.error (.grid e), drawn.2)
    | .ok inner =>
      let l ← inner.locationChecked?
      some (.ok ⟨l, some outer⟩, drawn.2)

/-- Whether a mask fits the area; its sides are narrowed to 8-bit numbers. -/
def fitsChecked? (area : Area) (m : Mask) : Option Bool := do
  let width ← narrow8? m.columns
  let height ← narrow8? m.rows.length
  return width ≤ area.width && height ≤ area.height

/-- A mask in a random rotation, stamped inside the area; its sides are narrowed to 8-bit
numbers. -/
def randomMaskChecked? (area : Area) (m : Mask) : CheckedSampler := fun s => do
  let turned := m.randomTurn s
  let fit ← fitsChecked? area turned.1
  let shape := if fit then turned.1 else turned.1.turnRight
  let width ← narrow8? shape.columns
  let height ← narrow8? shape.rows.length
  let drawn ← area.randomRectChecked? width height turned.2
  match drawn.1 with
  | .error e => some (.error (.grid e), drawn.2)
  | .ok r => some (.ok ⟨shape.location r.origin, none⟩, drawn.2)

/-- A candidate that stays inside an area with its dots and with the rectangle around it. -/
structure StaysInside (area : Area) (c : Candidate) : Prop where
  /-- The dots lie inside. -/
  contains : ∀ d ∈ c.location, area.contains d = true
  /-- The rectangle lies inside. -/
  containsRect : ∀ r, c.clearance = some r → area.containsRect r = true

variable {area : Area} {width height margin outerWidth outerHeight : UInt8} {m : Mask}
  {s : WordStream} {c : Candidate}

theorem staysInside_randomDot (h : (randomDot area s).1 = .ok c) : c.StaysInside area := by
  obtain rfl := Except.ok.inj h
  refine ⟨fun d hd => ?_, nofun⟩
  obtain rfl := List.mem_singleton.1 hd
  exact area.contains_randomDot s

/-! #### Rectangles -/

theorem randomRectChecked?_eq (area : Area) (width height : UInt8) (s : WordStream) :
    randomRectChecked? area width height s = some (randomRect area width height s) := by
  rw [randomRectChecked?, randomRect, Area.randomRectChecked?_eq, Option.bind_eq_bind,
    Option.bind_some]
  cases hdrawn : (area.randomRect width height s).1 with
  | error e => rfl
  | ok r =>
    obtain ⟨-, -, hr⟩ := Area.of_randomRect_eq_ok hdrawn
    dsimp only
    rw [Area.locationChecked?_of_containsRect hr]
    rfl

theorem staysInside_randomRect (h : (randomRect area width height s).1 = .ok c) :
    c.StaysInside area := by
  rw [randomRect] at h
  cases hdrawn : (area.randomRect width height s).1 with
  | error e =>
    rw [hdrawn] at h
    cases h
  | ok r =>
    rw [hdrawn] at h
    obtain rfl := Except.ok.inj h
    obtain ⟨-, -, hr⟩ := Area.of_randomRect_eq_ok hdrawn
    refine ⟨fun d hd => Area.contains_of_mem_rect hr hd, ?_⟩
    rintro r' ⟨⟩

/-! #### Rectangles within a margin -/

/-- The inner part of a drawn rectangle lies in the area with the margin behind it. -/
private theorem inside_of_drawn {outer : Rect}
    (hw : Board.withMargin width margin = some outerWidth)
    (hh : Board.withMargin height margin = some outerHeight)
    (h : (area.randomRect outerWidth outerHeight s).1 = .ok outer) :
    outer.x.toNat + (width.toNat + 2 * margin.toNat) ≤ area.width.toNat ∧
      outer.y.toNat + (height.toNat + 2 * margin.toNat) ≤ area.height.toNat := by
  obtain ⟨hwidth, hheight, hr⟩ := Area.of_randomRect_eq_ok h
  rw [Area.containsRect_iff, hwidth, hheight, toNat_of_withMargin hw, toNat_of_withMargin hh] at hr
  exact hr

private theorem containsRect_inner {outer : Rect}
    (hw : Board.withMargin width margin = some outerWidth)
    (hh : Board.withMargin height margin = some outerHeight)
    (h : (area.randomRect outerWidth outerHeight s).1 = .ok outer) :
    area.containsRect ⟨outer.x + margin, outer.y + margin, width, height⟩ = true := by
  obtain ⟨hright, hlower⟩ := inside_of_drawn hw hh h
  rw [Area.containsRect_iff]
  dsimp only
  rw [UInt8.toNat_add, UInt8.toNat_add]
  have hx := Nat.mod_le (outer.x.toNat + margin.toNat) (2 ^ 8)
  have hy := Nat.mod_le (outer.y.toNat + margin.toNat) (2 ^ 8)
  omega

theorem randomRectMarginChecked?_eq (hw : Board.withMargin width margin = some outerWidth)
    (hh : Board.withMargin height margin = some outerHeight) (s : WordStream) :
    randomRectMarginChecked? area width height margin outerWidth outerHeight s =
      some (randomRectMargin area width height margin outerWidth outerHeight s) := by
  rw [randomRectMarginChecked?, randomRectMargin, Area.randomRectChecked?_eq, Option.bind_eq_bind,
    Option.bind_some]
  cases hdrawn : (area.randomRect outerWidth outerHeight s).1 with
  | error e => rfl
  | ok outer =>
    obtain ⟨hright, hlower⟩ := inside_of_drawn hw hh hdrawn
    have hwidth := area.width.toNat_lt
    have hheight := area.height.toNat_lt
    dsimp only
    rw [add8?_eq (by omega), add8?_eq (by omega)]
    simp only [Option.bind_eq_bind, Option.bind_some, Rect.makeChecked?_eq]
    cases hmake : Rect.make (outer.x + margin) (outer.y + margin) width height with
    | error e => rfl
    | ok inner =>
      obtain ⟨⟨-, -, hx, hy⟩, -⟩ := Rect.make_eq_ok_iff.1 hmake
      dsimp only
      rw [Rect.locationChecked?_eq hx hy]
      rfl

theorem staysInside_randomRectMargin (hw : Board.withMargin width margin = some outerWidth)
    (hh : Board.withMargin height margin = some outerHeight)
    (h : (randomRectMargin area width height margin outerWidth outerHeight s).1 = .ok c) :
    c.StaysInside area := by
  rw [randomRectMargin] at h
  cases hdrawn : (area.randomRect outerWidth outerHeight s).1 with
  | error e =>
    rw [hdrawn] at h
    cases h
  | ok outer =>
    rw [hdrawn] at h
    dsimp only at h
    cases hmake : Rect.make (outer.x + margin) (outer.y + margin) width height with
    | error e =>
      rw [hmake] at h
      cases h
    | ok inner =>
      rw [hmake] at h
      obtain rfl := Except.ok.inj h
      obtain ⟨-, rfl⟩ := Rect.make_eq_ok_iff.1 hmake
      obtain ⟨-, -, houter⟩ := Area.of_randomRect_eq_ok hdrawn
      have hinner := containsRect_inner hw hh hdrawn
      refine ⟨fun d hd => Area.contains_of_mem_rect hinner hd, ?_⟩
      rintro r ⟨⟩
      exact houter

/-! #### Masks -/

private theorem narrow8?_columns (m : Mask) : narrow8? m.columns = some m.width :=
  narrow8?_eq m.columns_lt

private theorem narrow8?_length_rows (m : Mask) : narrow8? m.rows.length = some m.height :=
  narrow8?_eq m.rows_lt

theorem fitsChecked?_eq (area : Area) (m : Mask) : fitsChecked? area m = some (fits area m) := by
  rw [fitsChecked?, narrow8?_columns, narrow8?_length_rows]
  rfl

theorem randomMaskChecked?_eq (area : Area) (m : Mask) (s : WordStream) :
    randomMaskChecked? area m s = some (randomMask area m s) := by
  rw [randomMaskChecked?]
  dsimp only [randomMask]
  simp only [fitsChecked?_eq, narrow8?_columns, narrow8?_length_rows, Area.randomRectChecked?_eq,
    Option.bind_eq_bind, Option.bind_some]
  generalize area.randomRect _ _ _ = drawn
  obtain ⟨e | r, s'⟩ := drawn <;> rfl

theorem staysInside_randomMask (h : (randomMask area m s).1 = .ok c) : c.StaysInside area := by
  dsimp only [randomMask] at h
  split at h
  · cases h
  · rename_i r hdrawn
    obtain rfl := Except.ok.inj h
    obtain ⟨hw, hh, hr⟩ := Area.of_randomRect_eq_ok hdrawn
    exact ⟨fun d hd => Area.contains_of_mem_stamp hr hw hh hd, nofun⟩

end Candidate

/-! ### Requests -/

namespace Board

variable {α : Type}

/-- Whether no dot of the rectangle around a candidate is claimed; its dots are listed. -/
def isClearChecked? (b : Board α) (c : Candidate) : Option Bool :=
  match c.clearance with
  | none => some true
  | some outer => do
    let l ← outer.locationChecked?
    return !b.occupancy.hasAny l.keys

theorem isClearChecked?_eq {c : Candidate} {area : Area} (h : c.StaysInside area) (b : Board α) :
    b.isClearChecked? c = some (b.isClear c) := by
  rw [isClearChecked?, isClear]
  cases hclearance : c.clearance with
  | none => rfl
  | some outer =>
    dsimp only
    rw [Area.locationChecked?_of_containsRect (h.containsRect outer hclearance)]
    rfl

variable [DecidableEq α]

/-- Tries at most `n` candidates and places an object on the first that is clear and free. -/
def placeWithinChecked? (o : α) (sample : CheckedSampler) :
    Nat → Board α → Option (Except BoardError Location × Board α)
  | 0, b => some (.error (.retriesExhausted b.retries), b)
  | n + 1, b => do
    let drawn ← sample b.stream
    let b := b.seek drawn.2
    match drawn.1 with
    | .error e => some (.error e, b)
    | .ok c =>
      if ← b.isClearChecked? c then
        let r := b.claim o c.location
        if r.1 then
          let s := r.2.register o c.location
          some (s.1.map fun _ => c.location, s.2)
        else placeWithinChecked? o sample n r.2
      else placeWithinChecked? o sample n b

/-- Places an object on a random candidate, trying as many as the budget allows. -/
def placeChecked? (b : Board α) (o : α) (sample : CheckedSampler) :
    Option (Except BoardError Location × Board α) :=
  if b.isRegistered o then some (.error .objectAlreadyRegistered, b)
  else placeWithinChecked? o sample b.retries.toNat b

/-- Places an object on a random rectangle within a margin. A side that is no 8-bit number with its
margin is refused, and no overflow. -/
def createRandomRectMarginChecked? (b : Board α) (o : α) (width height margin : UInt8) :
    Option (Except BoardError Location × Board α) :=
  if width = 0 ∨ height = 0 then some (.error (.grid (.invalidRect 0 0 width height)), b)
  else
    match withMargin width margin, withMargin height margin with
    | some outerWidth, some outerHeight =>
      b.placeChecked? o
        (Candidate.randomRectMarginChecked? b.area width height margin outerWidth outerHeight)
    | _, _ => some (.error (.grid (.invalidRect 0 0 width height)), b)

/-- Places an object on a random stamp of a mask. -/
def createRandomMaskChecked? (b : Board α) (o : α) (m : Mask) :
    Option (Except BoardError Location × Board α) :=
  if m.count = 0 then some (.error .emptyLocation, b)
  else do
    let fit ← Candidate.fitsChecked? b.area m
    let fitTurned ← Candidate.fitsChecked? b.area m.turnRight
    if fit || fitTurned then b.placeChecked? o (Candidate.randomMaskChecked? b.area m)
    else
      let width ← narrow8? m.columns
      let height ← narrow8? m.rows.length
      some (.error (.grid (.rectDoesNotFit width height b.area.width b.area.height)), b)

/-- The answer to a request and the board after it. Of the requests, only those that place a
rectangle or a mask at random compute coordinates. -/
def stepChecked? (b : Board α) : BoardRequest α → Option (Except BoardError Answer × Board α)
  | .createRandomRect o width height =>
      (b.placeChecked? o (Candidate.randomRectChecked? b.area width height)).map withLocation
  | .createRandomRectMargin o width height margin =>
      (b.createRandomRectMarginChecked? o width height margin).map withLocation
  | .createRandomMask o m => (b.createRandomMaskChecked? o m).map withLocation
  | r => some (b.step r)

/-- The answers to a list of requests, each with the board after it. -/
def traceChecked? (b : Board α) :
    List (BoardRequest α) → Option (List (Except BoardError Answer × Board α))
  | [] => some []
  | r :: rs => do
    let outcome ← b.stepChecked? r
    let rest ← traceChecked? outcome.2 rs
    return outcome :: rest

variable {o : α} {checked : CheckedSampler} {sample : Sampler} {area : Area}

/-- A search among candidates that lie in an area overflows nowhere if its sampler does not. -/
theorem placeWithinChecked?_eq (hsample : ∀ s, checked s = some (sample s))
    (hinside : ∀ s c, (sample s).1 = .ok c → c.StaysInside area) (n : Nat) (b : Board α) :
    placeWithinChecked? o checked n b = some (placeWithin o sample n b) := by
  induction n generalizing b with
  | zero => rfl
  | succ n ih =>
    rw [placeWithinChecked?, placeWithin, hsample, Option.bind_eq_bind, Option.bind_some]
    dsimp only
    cases hdrawn : (sample b.stream).1 with
    | error e => rfl
    | ok c =>
      have hclear := isClearChecked?_eq (hinside _ c hdrawn) (b.seek (sample b.stream).2)
      dsimp only
      rw [hclear, Option.bind_eq_bind, Option.bind_some]
      split
      · split
        · rfl
        · exact ih _
      · exact ih _

theorem placeChecked?_eq (hsample : ∀ s, checked s = some (sample s))
    (hinside : ∀ s c, (sample s).1 = .ok c → c.StaysInside area) (b : Board α) (o : α) :
    b.placeChecked? o checked = some (b.place o sample) := by
  rw [placeChecked?, place]
  split
  · rfl
  · exact placeWithinChecked?_eq hsample hinside _ b

theorem createRandomRectMarginChecked?_eq (b : Board α) (o : α) (width height margin : UInt8) :
    b.createRandomRectMarginChecked? o width height margin =
      some (b.createRandomRectMargin o width height margin) := by
  rw [createRandomRectMarginChecked?, createRandomRectMargin]
  split
  · rfl
  · cases hw : withMargin width margin with
    | none => rfl
    | some outerWidth =>
      cases hh : withMargin height margin with
      | none => rfl
      | some outerHeight =>
        exact placeChecked?_eq (Candidate.randomRectMarginChecked?_eq hw hh)
          (fun _ _ => Candidate.staysInside_randomRectMargin hw hh) b o

theorem createRandomMaskChecked?_eq (b : Board α) (o : α) (m : Mask) :
    b.createRandomMaskChecked? o m = some (b.createRandomMask o m) := by
  rw [createRandomMaskChecked?, createRandomMask]
  simp only [Candidate.fitsChecked?_eq, Candidate.narrow8?_columns,
    Candidate.narrow8?_length_rows, Option.bind_eq_bind, Option.bind_some]
  split
  · rfl
  · split
    · exact placeChecked?_eq (Candidate.randomMaskChecked?_eq b.area m)
        (fun _ _ => Candidate.staysInside_randomMask) b o
    · rfl

/-- No request overflows. -/
theorem stepChecked?_eq (b : Board α) (r : BoardRequest α) :
    b.stepChecked? r = some (b.step r) := by
  cases r with
  | createRandomRect o width height =>
    have hplace := placeChecked?_eq (Candidate.randomRectChecked?_eq b.area width height)
      (fun _ _ => Candidate.staysInside_randomRect) b o
    exact congrArg (Option.map withLocation) hplace
  | createRandomRectMargin o width height margin =>
    exact congrArg (Option.map withLocation)
      (createRandomRectMarginChecked?_eq b o width height margin)
  | createRandomMask o m =>
    exact congrArg (Option.map withLocation) (createRandomMaskChecked?_eq b o m)
  | _ => rfl

/-- No run overflows. -/
theorem traceChecked?_eq (b : Board α) (rs : List (BoardRequest α)) :
    b.traceChecked? rs = some (b.trace rs) := by
  induction rs generalizing b with
  | nil => rfl
  | cons r rs ih =>
    rw [traceChecked?, stepChecked?_eq, Option.bind_eq_bind, Option.bind_some, ih]
    rfl

end Board

end ClaimGrid
