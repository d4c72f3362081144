import Mathlib.Data.Nat.Find
import ClaimGrid.Proofs.Board.WellFormed

/-!
# Random placement is first fit

A sampler that never refuses turns a word stream into an endless sequence of candidates. A search
goes through that sequence and takes the first candidate that nothing obstructs, if the budget lasts
that long. Candidates that were passed over leave no trace but the words that were drawn for them.

## Main definitions

* `Sampler.after`, `Sampler.Draws`: the stream after some candidates, and the candidates of a
  stream.
* `Board.Unobstructed`: nobody claims a dot of a candidate, or of the rectangle around it.
* `Board.EndedOn`: a search has placed its object on a candidate.
* `BoardRequest.PlacesAtRandom`, `BoardRequest.sampler?`: requests for a random place, and what they
  draw from.
* `Sampler.Proposes`: a sampler never refuses, and stays inside an area.

## Main results

* `Board.placeWithin_of_first`, `Board.placeWithin_of_none`: how a search ends.
* `Board.exists_endedOn`: what a search that succeeds has done.
* `Board.exists_sampler_of_not_flawed`: a request without a flaw is such a search.
* `Board.place_at_random_firstFit`: every request for a random place, on every board that requests
  lead to.
-/

namespace ClaimGrid

/-! ### The candidates of a stream -/

namespace Sampler

/-- The stream after `n` candidates were drawn. -/
def after (sample : Sampler) : Nat → WordStream → WordStream
  | 0, s => s
  | n + 1, s => after sample n (sample s).2

/-- Drawn one after another from the stream, the candidates are `c 0`, `c 1` and so on. -/
def Draws (sample : Sampler) (s : WordStream) (c : Nat → Candidate) : Prop :=
  ∀ i, (sample (sample.after i s)).1 = .ok (c i)

/-- A sampler that never refuses, and whose candidates lie inside an area. -/
structure Proposes (sample : Sampler) (area : Area) : Prop where
  /-- There is a candidate for every stream. -/
  proposes : ∀ s, ∃ c, (sample s).1 = .ok c
  /-- Every candidate lies inside. -/
  staysInside : ∀ s c, (sample s).1 = .ok c → c.StaysInside area

variable {sample : Sampler} {s : WordStream} {c : Nat → Candidate}

/-- What is drawn after the first candidate. -/
theorem Draws.tail (h : sample.Draws s c) : sample.Draws (sample s).2 fun i => c (i + 1) :=
  fun i => h (i + 1)

/-- The last of some candidates is drawn from where the others left the stream. -/
theorem after_succ (sample : Sampler) (n : Nat) (s : WordStream) :
    sample.after (n + 1) s = (sample (sample.after n s)).2 := by
  induction n generalizing s with
  | zero => rfl
  | succ n ih => exact ih (sample s).2

theorem Proposes.exists_draws {area : Area} (h : sample.Proposes area) (s : WordStream) :
    ∃ c, sample.Draws s c := by
  choose c hc using fun i => h.proposes (sample.after i s)
  exact ⟨c, hc⟩

end Sampler

/-! ### How a search ends -/

namespace Board

variable {α : Type} {b : Board α}

/-- Nobody claims a dot of the candidate, nor one of the rectangle that must be clear around it. -/
def Unobstructed (b : Board α) (c : Candidate) : Prop :=
  b.IsFree c.location ∧ ∀ outer, c.clearance = some outer → b.IsFree outer.location

theorem isClear_iff {c : Candidate} :
    b.isClear c = true ↔ ∀ outer, c.clearance = some outer → b.IsFree outer.location := by
  rw [isClear]
  cases c.clearance with
  | none => simp
  | some outer =>
    have hfree : (!b.occupancy.hasAny outer.location.keys) = true ↔ b.IsFree outer.location := by
      simp [ShardMap.hasAny_eq, ShardMap.contains_eq_isSome, Location.keys, IsFree, owner?,
        Location.mem_def]
    simpa using hfree

theorem unobstructed_iff {c : Candidate} :
    b.Unobstructed c ↔ b.isClear c = true ∧ b.IsFree c.location := by
  rw [Unobstructed, isClear_iff, and_comm]

instance (b : Board α) (c : Candidate) : Decidable (b.Unobstructed c) :=
  decidable_of_iff' _ unobstructed_iff

variable [DecidableEq α] {o : α} {sample : Sampler} {c : Nat → Candidate} {i n : Nat}

/-- A search tries the first candidate, and leaves it to a search among the others if something is
in the way. -/
theorem placeWithin_of_draws (hreg : b.isRegistered o = false)
    (hdraws : sample.Draws b.stream c) (n : Nat) :
    placeWithin o sample (n + 1) b =
      if b.Unobstructed (c 0) then
        (.ok (c 0).location, ((b.seek (sample b.stream).2).occupy o (c 0).location).enlist o)
      else placeWithin o sample n (b.seek (sample b.stream).2) := by
  have hdrawn : (sample b.stream).1 = .ok (c 0) := hdraws 0
  rw [placeWithin_succ hreg, hdrawn]
  exact if_congr unobstructed_iff.symm rfl rfl

/-- A search ends on the first candidate that nothing obstructs. -/
theorem placeWithin_of_first (hreg : b.isRegistered o = false)
    (hdraws : sample.Draws b.stream c) (hi : i < n) (hun : b.Unobstructed (c i))
    (hfirst : ∀ j < i, ¬b.Unobstructed (c j)) :
    placeWithin o sample n b = (.ok (c i).location,
      ((b.seek (sample.after (i + 1) b.stream)).occupy o (c i).location).enlist o) := by
  -- what obstructs a candidate is on the board, so it is the same for the rest of the search
  induction n generalizing b c i with
  | zero => omega
  | succ n ih =>
    rw [placeWithin_of_draws hreg hdraws]
    cases i with
    | zero => rw [if_pos hun]; rfl
    | succ i =>
      rw [if_neg (hfirst 0 i.succ_pos)]
      exact ih (b := b.seek (sample b.stream).2) hreg hdraws.tail (by omega) hun
        fun j hj => hfirst (j + 1) (by omega)

/-- A search among candidates that are all obstructed uses up its budget and takes nothing. -/
theorem placeWithin_of_none (hreg : b.isRegistered o = false)
    (hdraws : sample.Draws b.stream c) (hnone : ∀ j < n, ¬b.Unobstructed (c j)) :
    placeWithin o sample n b =
      (.error (.retriesExhausted b.retries), b.seek (sample.after n b.stream)) := by
  induction n generalizing b c with
  | zero => rfl
  | succ n ih =>
    rw [placeWithin_of_draws hreg hdraws, if_neg (hnone 0 n.succ_pos)]
    exact ih (b := b.seek (sample b.stream).2) hreg hdraws.tail
      fun j hj => hnone (j + 1) (by omega)

/-- A search for an object has ended on the candidate that was drawn from the stream `s`. -/
structure EndedOn (b : Board α) (o : α) (sample : Sampler) (s : WordStream) (c : Candidate)
    (outcome : Except BoardError Location × Board α) : Prop where
  /-- The budget lasted that long. -/
  within_budget : ∃ i < b.retries.toNat, s = sample.after i b.stream
  /-- The candidate was drawn. -/
  drawn : (sample s).1 = .ok c
  /-- Nothing was in its way. -/
  unobstructed : b.Unobstructed c
  /-- Its location is the answer. -/
  answer : outcome.1 = .ok c.location
  /-- The object has its dots now, and no other dot changed hands. -/
  owner?_eq : ∀ d, outcome.2.owner? d = if d ∈ c.location then some o else b.owner? d
  /-- The stream stands just after it. -/
  stream_eq : outcome.2.stream = (sample s).2

/-- A search that succeeds has ended on one of its candidates. -/
theorem exists_endedOn {l : Location} (hsample : ∀ s, ∃ c, (sample s).1 = .ok c)
    (h : (b.place o sample).1 = .ok l) :
    ∃ s c, c.location = l ∧ b.EndedOn o sample s c (b.place o sample) := by
  rw [place] at h ⊢
  split at h
  · cases h
  · rename_i hreg
    rw [if_neg hreg]
    rw [Bool.not_eq_true] at hreg
    choose c hc using fun i => hsample (sample.after i b.stream)
    by_cases hfits : ∃ i < b.retries.toNat, b.Unobstructed (c i)
    · have hfirst : ∀ j < Nat.find hfits, ¬b.Unobstructed (c j) := fun j hj hun =>
        Nat.find_min hfits hj ⟨Nat.lt_trans hj (Nat.find_spec hfits).1, hun⟩
      obtain ⟨hi, hun⟩ := Nat.find_spec hfits
      rw [placeWithin_of_first hreg hc hi hun hfirst] at h ⊢
      exact ⟨_, _, Except.ok.inj h, ⟨_, hi, rfl⟩, hc _, hun, rfl, fun d => owner?_occupy d,
        sample.after_succ _ _⟩
    · rw [placeWithin_of_none hreg hc fun j hj hun => hfits ⟨j, hj, hun⟩] at h
      cases h

end Board

/-! ### Requests for a random place -/

namespace BoardRequest

variable {α : Type}

/-- The request is for a random place. -/
def PlacesAtRandom : BoardRequest α → Prop
  | createRandomDot .. | createRandomRect .. | createRandomRectMargin .. | createRandomMask .. =>
      True
  | _ => False

/-- What a request for a random place draws its candidates from, on a given area. -/
def sampler? (area : Area) : BoardRequest α → Option Sampler
  | createRandomDot _ => some (Candidate.randomDot area)
  | createRandomRect _ width height => some (Candidate.randomRect area width height)
  | createRandomRectMargin _ width height margin =>
    match Board.withMargin width margin, Board.withMargin height margin with
    | some outerWidth, some outerHeight =>
      some (Candidate.randomRectMargin area width height margin outerWidth outerHeight)
    | _, _ => none
  | createRandomMask _ m => some (Candidate.randomMask area m)
  | _ => none

end BoardRequest

namespace Candidate

variable {area : Area} {width height margin outerWidth outerHeight : UInt8}

theorem proposes_randomDot (area : Area) : (randomDot area).Proposes area :=
  ⟨fun _ => ⟨_, rfl⟩, fun _ _ => staysInside_randomDot⟩

theorem proposes_randomRect
    (h : ¬(width = 0 ∨ height = 0 ∨ area.width < width ∨ area.height < height)) :
    (randomRect area width height).Proposes area :=
  ⟨randomRect_of_fits h, fun _ _ => staysInside_randomRect⟩

theorem proposes_randomRectMargin (hwidth : width ≠ 0) (hheight : height ≠ 0)
    (hw : Board.withMargin width margin = some outerWidth)
    (hh : Board.withMargin height margin = some outerHeight)
    (h : ¬(outerWidth = 0 ∨ outerHeight = 0 ∨ area.width < outerWidth ∨
      area.height < outerHeight)) :
    (randomRectMargin area width height margin outerWidth outerHeight).Proposes area :=
  ⟨randomRectMargin_of_fits hwidth hheight hw hh h, fun _ _ => staysInside_randomRectMargin hw hh⟩

/-- The candidates for a rectangle have as many distinct dots as the rectangle. -/
theorem nodup_randomRect {s : WordStream} {c : Candidate}
    (h : (randomRect area width height s).1 = .ok c) :
    c.location.dots.Nodup ∧ c.location.size = width.toNat * height.toNat := by
  rw [randomRect] at h
  cases hdrawn : (area.randomRect width height s).1 with
  | error e =>
    rw [hdrawn] at h
    cases h
  | ok r =>
    rw [hdrawn] at h
    obtain rfl := Except.ok.inj h
    obtain ⟨rfl, rfl, hr⟩ := Area.of_randomRect_eq_ok hdrawn
    obtain ⟨hright, hlower⟩ := Area.containsRect_iff.1 hr
    have hwidth := area.width.toNat_lt
    have hheight := area.height.toNat_lt
    exact ⟨Rect.nodup_location (by omega) (by omega), r.size_location⟩

end Candidate

namespace Board

variable {α : Type} [DecidableEq α] {area : Area} {settings : BoardSettings} {b : Board α}
  {r : BoardRequest α}

/-- A request for a random place without a flaw is a search among candidates that lie inside. -/
theorem exists_sampler_of_not_flawed (hr : r.PlacesAtRandom) (h : ¬r.Flawed b.area) :
    ∃ sample, r.sampler? b.area = some sample ∧ sample.Proposes b.area ∧
      b.step r = withLocation (b.place r.object sample) := by
  cases r with
  | createRandomDot o => exact ⟨_, rfl, Candidate.proposes_randomDot b.area, rfl⟩
  | createRandomRect o width height => exact ⟨_, rfl, Candidate.proposes_randomRect h, rfl⟩
  | createRandomRectMargin o width height margin =>
    obtain ⟨outerWidth, outerHeight, hsides, hw, hh, houter⟩ := exists_outer_of_not_flawed h
    obtain ⟨hwidth, hheight⟩ := not_or.1 hsides
    refine ⟨_, ?_, Candidate.proposes_randomRectMargin hwidth hheight hw hh houter,
      congrArg withLocation (createRandomRectMargin_of_outer hsides hw hh)⟩
    simp only [BoardRequest.sampler?, hw, hh]
  | createRandomMask o m =>
    obtain ⟨hproposes, hplace⟩ := createRandomMask_of_not_flawed h
    exact ⟨_, rfl, ⟨hproposes, fun _ _ => Candidate.staysInside_randomMask⟩,
      congrArg withLocation hplace⟩
  | create | createAvailable | update | updateAvailable | delete => exact absurd hr id

/-- A flawed request for a random place of a new object is refused, and nothing is drawn for it. -/
theorem step_of_flawed (hb : Reachable area settings b) (hnew : r.object ∉ b.objects)
    (h : r.Flawed area) : ∃ e : BoardError, e.kind = .validation ∧ b.step r = (.error e, b) := by
  obtain ⟨harea, hretries⟩ := hb.rules
  obtain ⟨e, hkind, hfault⟩ := exists_fault_of_flawed h
  have he : (b.step r).1 = .error e :=
    (hfault b harea hretries).resolve_right fun hlisted => hnew hlisted.2.1
  have hidle : idles (b.step r).1 = true := by
    refine idles_iff.2 ⟨e, he, ?_⟩
    rintro n rfl
    cases hkind
  exact ⟨e, hkind, Prod.ext he (step_of_idles hidle)⟩

/-- A board keeps the retry budget of its settings. -/
theorem Reachable.retries_eq (h : Reachable area settings b) :
    b.retries = settings.placementRetries := by
  induction h with
  | start hmake =>
    obtain ⟨hn, rfl⟩ := make_eq_ok hmake
    rfl
  | step _ r ih => exact (sameRules_step _ r).retries_eq.trans ih

/-- The outcome is that of a first fit of `o` among the candidates `c`, which a sampler draws from
the word stream of the board. -/
structure FirstFit (b : Board α) (o : α) (budget : UInt32) (sample : Sampler) (c : Nat → Candidate)
    (outcome : Except BoardError Answer × Board α) : Prop where
  /-- The candidates are those that are drawn one after another. -/
  draws : sample.Draws b.stream c
  /-- It succeeds exactly if something fits within the budget. -/
  succeeds_iff : (∃ answer, outcome.1 = .ok answer) ↔ ∃ i < budget.toNat, b.Unobstructed (c i)
  /-- The first candidate that fits is answered and becomes the object's, no other dot changes
  hands, the object is listed last, and the stream stands just after that candidate. -/
  placed : ∀ i < budget.toNat, b.Unobstructed (c i) → (∀ j < i, ¬b.Unobstructed (c j)) →
    outcome.1 = .ok (some (c i).location) ∧
      (∀ d, outcome.2.owner? d = if d ∈ (c i).location then some o else b.owner? d) ∧
      outcome.2.objects = b.objects ++ [o] ∧ outcome.2.stream = sample.after (i + 1) b.stream
  /-- If nothing fits, the budget is used up, and only the stream has moved. -/
  exhausted : (∀ i < budget.toNat, ¬b.Unobstructed (c i)) →
    outcome = (.error (.retriesExhausted budget), b.seek (sample.after budget.toNat b.stream))

/-- A search for a new object is a first fit. -/
theorem firstFit_place {o : α} {sample : Sampler} {c : Nat → Candidate}
    (hreg : b.isRegistered o = false) (hdraws : sample.Draws b.stream c) :
    b.FirstFit o b.retries sample c (withLocation (b.place o sample)) := by
  have hplace : b.place o sample = placeWithin o sample b.retries.toNat b := by
    rw [place, hreg, if_neg Bool.false_ne_true]
  rw [hplace]
  refine ⟨hdraws, ⟨?_, ?_⟩, fun i hi hun hfirst => ?_, fun hnone => ?_⟩
  · rintro ⟨answer, hanswer⟩
    by_contra hnone
    have hall : ∀ i < b.retries.toNat, ¬b.Unobstructed (c i) :=
      fun i hi hun => hnone ⟨i, hi, hun⟩
    rw [placeWithin_of_none hreg hdraws hall] at hanswer
    cases hanswer
  · rintro ⟨i, hi, hun⟩
    have hfits : ∃ i, b.Unobstructed (c i) := ⟨i, hun⟩
    have hle : Nat.find hfits ≤ i := Nat.find_min' hfits hun
    rw [placeWithin_of_first hreg hdraws (by omega) (Nat.find_spec hfits)
      fun j hj => Nat.find_min hfits hj]
    exact ⟨_, rfl⟩
  · rw [placeWithin_of_first hreg hdraws hi hun hfirst]
    exact ⟨rfl, fun d => owner?_occupy d, rfl, rfl⟩
  · rw [placeWithin_of_none hreg hdraws hnone]
    rfl

/-- A request for a random place of an object that is not on the board is a first fit among the
candidates that are drawn from where the word stream stands, with the budget of the settings. All
candidates lie inside the area, and those for a rectangle have as many distinct dots as it has. Only
a request whose arguments are at fault is refused without any draw. -/
theorem place_at_random_firstFit (hb : Reachable area settings b) (hr : r.PlacesAtRandom)
    (hnew : r.object ∉ b.objects) :
    (¬r.Flawed area → ∃ sample c, r.sampler? area = some sample ∧
      b.FirstFit r.object settings.placementRetries sample c (b.step r) ∧
      (∀ i, ∀ d ∈ (c i).location, area.contains d = true) ∧
      ∀ o width height, r = .createRandomRect o width height → ∀ i,
        (c i).location.dots.Nodup ∧ (c i).location.size = width.toNat * height.toNat) ∧
    (r.Flawed area → ∃ e : BoardError, e.kind = .validation ∧ b.step r = (.error e, b)) := by
  refine ⟨fun hflawed => ?_, step_of_flawed hb hnew⟩
  obtain ⟨rfl, -⟩ := hb.rules
  have hreg : b.isRegistered r.object = false := isRegistered_eq_false_iff.2 hnew
  obtain ⟨sample, hsample, hproposes, hstep⟩ := exists_sampler_of_not_flawed hr hflawed
  obtain ⟨c, hdraws⟩ := hproposes.exists_draws b.stream
  refine ⟨sample, c, hsample, ?_, fun i => (hproposes.staysInside _ _ (hdraws i)).contains, ?_⟩
  · rw [hstep, ← hb.retries_eq]
    exact firstFit_place hreg hdraws
  · rintro o width height rfl i
    obtain rfl := Option.some.inj hsample
    exact Candidate.nodup_randomRect (hdraws i)

/-- Of the two dots of a board the first is taken. The first two candidates are that dot, and the
third is the other one: the second object gets it, with the stream after three candidates. -/
theorem place_at_random_firstFit_third :
    ∃ b : Board Nat, Reachable ⟨2, 1, by decide, by decide⟩ {} b ∧
      b.owner? ⟨0, 0⟩ = some 0 ∧ (b.step (.createRandomDot 1)).1 = .ok (some (.ofDot ⟨1, 0⟩)) ∧
      (b.step (.createRandomDot 1)).2.owner? ⟨1, 0⟩ = some 1 ∧
      (b.step (.createRandomDot 1)).2.objects = [0, 1] ∧
      (b.step (.createRandomDot 1)).2.stream =
        (Candidate.randomDot ⟨2, 1, by decide, by decide⟩).after 3 b.stream := by
  have hb : Reachable ⟨2, 1, by decide, by decide⟩ {} _ :=
    (Reachable.start (α := Nat) rfl).step (.create 0 (.ofDot ⟨0, 0⟩))
  obtain ⟨sample, c, hsample, hfit, -, -⟩ :=
    (place_at_random_firstFit (r := .createRandomDot 1) hb trivial (by decide)).1 id
  obtain rfl := Option.some.inj hsample
  have hdrawn (i : Nat) (d : Dot) (h : (Area.randomDot ⟨2, 1, by decide, by decide⟩
      ((Candidate.randomDot ⟨2, 1, by decide, by decide⟩).after i (.ofSeed 10675360))).1 = d) :
      c i = ⟨.ofDot d, none⟩ := by
    subst h
    exact (Except.ok.inj (hfit.draws i)).symm
  have hfirst := hdrawn 0 ⟨0, 0⟩ (by decide +kernel)
  have hsecond := hdrawn 1 ⟨0, 0⟩ (by decide +kernel)
  have hthird := hdrawn 2 ⟨1, 0⟩ (by decide +kernel)
  obtain ⟨hanswer, howner, hobjects, hstream⟩ :=
    hfit.placed 2 (by decide) (by rw [hthird]; decide) fun j hj => by
      obtain rfl | rfl : j = 0 ∨ j = 1 := by omega
      · rw [hfirst]
        decide
      · rw [hsecond]
        decide
  rw [hthird] at hanswer howner
  exact ⟨_, hb, rfl, hanswer, howner _, hobjects, hstream⟩

end Board

end ClaimGrid
