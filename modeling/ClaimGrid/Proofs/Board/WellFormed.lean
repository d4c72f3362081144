import ClaimGrid.Proofs.Board.Checked
import ClaimGrid.Proofs.Board.Flaws
import ClaimGrid.Proofs.Shard.Snapshot

/-!
# Well-formed boards

Whatever is asked of a board, claims never leave its area: a location that is named is checked, and
a location that is drawn lies inside, wherever the word stream stands. The registry lists nobody
twice, and the snapshot of the claimed dots is the claims: in the order of the keys, each dot once,
and never more of them than the area has.

## Main definitions

* `Board.WellFormed`: the claims lie in the area, and the registry lists nobody twice.

## Main results

* `Board.contains_of_mem_held`: an object that is granted a location is granted dots of the area.
* `Board.WellFormed.step`: a request keeps a board well-formed.
* `Board.mem_occupiedDots`, `Board.pairwise_occupiedDots`, `Board.length_occupiedDots`: the
  snapshot.
* `Board.reachable_wellFormed`: what holds of every board that requests lead to.
-/

namespace ClaimGrid.Board

variable {α : Type} {b : Board α}

/-! ### The snapshot -/

theorem dotOccupied_eq_isSome (d : Dot) : b.dotOccupied d = (b.owner? d).isSome :=
  ShardMap.contains_eq_isSome ..

/-- The snapshot lists the keys of all shards, sorted. -/
theorem occupiedDots_eq_mergeSort (b : Board α) :
    b.occupiedDots = b.occupancy.keys.mergeSort.map Dot.ofKey := by
  rw [occupiedDots, ShardMap.mergeSort_keys]

/-- The snapshot lists the claimed dots. -/
theorem mem_occupiedDots {d : Dot} : d ∈ b.occupiedDots ↔ b.dotOccupied d = true := by
  have hkey : d ∈ b.occupiedDots ↔ d.key ∈ b.occupancy.items.keys := by
    rw [occupiedDots, List.mem_map]
    constructor
    · rintro ⟨k, hk, rfl⟩
      rwa [Dot.key_ofKey]
    · exact fun hk => ⟨d.key, hk, Dot.ofKey_key d⟩
  rw [hkey, Std.ExtTreeMap.mem_keys, Std.ExtTreeMap.mem_iff_isSome_getElem?,
    ShardMap.getElem?_items, dotOccupied_eq_isSome]
  rfl

/-- The snapshot is in the order of the keys. -/
theorem pairwise_occupiedDots (b : Board α) :
    b.occupiedDots.Pairwise fun d d' => d.key < d'.key := by
  rw [occupiedDots, List.pairwise_map]
  refine Std.ExtTreeMap.ordered_keys.imp fun {k k'} hlt => ?_
  rw [Dot.key_ofKey, Dot.key_ofKey]
  exact Std.compare_eq_lt.1 hlt

theorem nodup_occupiedDots (b : Board α) : b.occupiedDots.Nodup :=
  b.pairwise_occupiedDots.imp fun hlt => by
    rintro rfl
    exact UInt16.lt_irrefl _ hlt

theorem length_occupiedDots (b : Board α) : b.occupiedDots.length = b.occupiedCount := by
  rw [occupiedDots, List.length_map, Std.ExtTreeMap.length_keys, occupiedCount,
    ShardMap.size_eq_size_items]

/-! ### Claims stay inside the area -/

/-- A location that passed the check lies inside. -/
theorem contains_of_checkLocation {l : Location} (h : b.checkLocation l = .ok ()) {d : Dot}
    (hd : d ∈ l) : b.area.contains d = true := by
  rw [checkLocation] at h
  split at h
  · cases h
  · split at h
    · rename_i hinside
      exact Location.forall_mem_of_containsLocation hinside hd
    · cases h

section Requests

variable [DecidableEq α] {o : α} {sample : Sampler} {l : Location} {d : Dot}

/-- A request that is granted asked for a location inside. -/
theorem contains_of_mem_asked {r : BoardRequest α} {answer : Answer} (hr : r.asked? = some l)
    (h : (b.step r).1 = .ok answer) (hd : d ∈ l) : b.area.contains d = true := by
  refine contains_of_checkLocation (l := l) ?_ hd
  cases hcheck : b.checkLocation l with
  | error e =>
    rw [step_of_checkLocation hr hcheck] at h
    cases h
  | ok u => rfl

theorem of_createAvailable_eq_ok {held : Location} (h : (b.createAvailable o l).1 = .ok held) :
    held = b.freePart l := by
  rw [createAvailable_eq] at h
  split at h
  · cases h
  · split at h
    · cases h
    · exact (Except.ok.inj h).symm

theorem of_updateAvailable_eq_ok {old new held : Location}
    (h : (b.updateAvailable o old new).1 = .ok held) : held = b.reach old new := by
  rw [updateAvailable_eq] at h
  split at h
  · cases h
  · split at h
    · split at h
      · cases h
      · exact (Except.ok.inj h).symm
    · cases h

/-- A search ends on a candidate that its sampler proposed. -/
theorem of_placeWithin_eq_ok (hreg : b.isRegistered o = false) {n : Nat}
    (h : (placeWithin o sample n b).1 = .ok l) : ∃ s c, (sample s).1 = .ok c ∧ c.location = l := by
  induction n generalizing b with
  | zero => cases h
  | succ n ih =>
    rw [placeWithin_succ hreg] at h
    cases hdrawn : (sample b.stream).1 with
    | error e =>
      rw [hdrawn] at h
      cases h
    | ok c =>
      rw [hdrawn] at h
      dsimp only at h
      split at h
      · exact ⟨b.stream, c, hdrawn, Except.ok.inj h⟩
      · exact ih (b := b.seek (sample b.stream).2) hreg h

/-- What a search places lies inside if all candidates do. -/
theorem contains_of_place {area : Area}
    (hinside : ∀ s c, (sample s).1 = .ok c → c.StaysInside area)
    (h : (b.place o sample).1 = .ok l) (hd : d ∈ l) : area.contains d = true := by
  rw [place] at h
  split at h
  · cases h
  · rename_i hreg
    obtain ⟨s, c, hdrawn, rfl⟩ := of_placeWithin_eq_ok (Bool.eq_false_iff.2 hreg) h
    exact (hinside s c hdrawn).contains d hd

theorem contains_of_createRandomRectMargin {width height margin : UInt8}
    (h : (b.createRandomRectMargin o width height margin).1 = .ok l) (hd : d ∈ l) :
    b.area.contains d = true := by
  rw [createRandomRectMargin] at h
  split at h
  · cases h
  · split at h
    · rename_i hw hh
      exact contains_of_place (fun _ _ => Candidate.staysInside_randomRectMargin hw hh) h hd
    · cases h

theorem contains_of_createRandomMask {m : Mask} (h : (b.createRandomMask o m).1 = .ok l)
    (hd : d ∈ l) : b.area.contains d = true := by
  rw [createRandomMask] at h
  split at h
  · cases h
  · split at h
    · exact contains_of_place (fun _ _ => Candidate.staysInside_randomMask) h hd
    · cases h

omit [DecidableEq α] in
theorem of_withLocation_eq_ok {outcome : Except BoardError Location × Board α} {answer : Answer}
    (h : (withLocation outcome).1 = .ok answer) : ∃ l, outcome.1 = .ok l ∧ answer = some l := by
  rw [withLocation] at h
  cases hl : outcome.1 with
  | error e =>
    rw [hl] at h
    cases h
  | ok l =>
    rw [hl] at h
    exact ⟨l, rfl, (Except.ok.inj h).symm⟩

/-- An object that is granted a location is granted dots of the area. -/
theorem contains_of_mem_held {r : BoardRequest α} {answer : Answer}
    (h : (b.step r).1 = .ok answer) (hd : d ∈ r.held answer) : b.area.contains d = true := by
  cases r with
  | create o l => exact contains_of_mem_asked rfl h hd
  | createAvailable o l =>
    obtain ⟨held, hheld, rfl⟩ := of_withLocation_eq_ok h
    obtain rfl := of_createAvailable_eq_ok hheld
    exact contains_of_mem_asked rfl h (mem_freePart.1 hd).1
  | createRandomDot o =>
    obtain ⟨held, hheld, rfl⟩ := of_withLocation_eq_ok h
    exact contains_of_place (fun _ _ => Candidate.staysInside_randomDot) hheld hd
  | createRandomRect o width height =>
    obtain ⟨held, hheld, rfl⟩ := of_withLocation_eq_ok h
    exact contains_of_place (fun _ _ => Candidate.staysInside_randomRect) hheld hd
  | createRandomRectMargin o width height margin =>
    obtain ⟨held, hheld, rfl⟩ := of_withLocation_eq_ok h
    exact contains_of_createRandomRectMargin hheld hd
  | createRandomMask o m =>
    obtain ⟨held, hheld, rfl⟩ := of_withLocation_eq_ok h
    exact contains_of_createRandomMask hheld hd
  | update o old new => exact contains_of_mem_asked rfl h hd
  | updateAvailable o old new =>
    obtain ⟨held, hheld, rfl⟩ := of_withLocation_eq_ok h
    obtain rfl := of_updateAvailable_eq_ok hheld
    exact contains_of_mem_asked rfl h (mem_reach.1 hd).1
  | delete o l => exact absurd hd List.not_mem_nil

end Requests

/-! ### Along a run -/

/-- The claims lie in the area, and the registry lists nobody twice. -/
structure WellFormed (b : Board α) : Prop where
  /-- A claimed dot lies inside. -/
  inside : ∀ d o, b.owner? d = some o → b.area.contains d = true
  /-- No object is on the board twice. -/
  nodup : b.objects.Nodup

/-- A well-formed board has no more claimed dots than its area has dots. -/
theorem WellFormed.occupiedCount_le (h : b.WellFormed) : b.occupiedCount ≤ b.area.size := by
  rw [← length_occupiedDots]
  refine Area.length_le_size b.nodup_occupiedDots fun d hd => ?_
  rw [mem_occupiedDots, dotOccupied_eq_isSome] at hd
  obtain ⟨o, ho⟩ := Option.isSome_iff_exists.1 hd
  exact h.inside d o ho

variable [DecidableEq α] {area : Area} {settings : BoardSettings}

/-- A request, granted or refused, keeps a board well-formed. -/
theorem WellFormed.step (h : b.WellFormed) (r : BoardRequest α) : (b.step r).2.WellFormed := by
  refine ⟨fun d o ho => ?_, nodup_step h.nodup r⟩
  rw [(sameRules_step b r).area_eq]
  rcases step_cases b r with ⟨e, s, hstep, -⟩ | ⟨answer, hanswer, hg⟩
  · rw [hstep] at ho
    exact h.inside d o ho
  · by_cases hd : d ∈ r.held answer
    · exact contains_of_mem_held hanswer hd
    · -- a dot that the object does not hold now was claimed before
      rw [hg.exchange.owner?_eq, if_neg fun htaken => hd htaken.1] at ho
      split at ho
      · cases ho
      · exact h.inside d o ho

theorem Reachable.wellFormed (h : Reachable area settings b) : b.WellFormed := by
  induction h with
  | start hmake =>
    refine ⟨fun d o ho => ?_, ?_⟩
    · rw [owner?_of_make hmake] at ho
      cases ho
    · rw [objects_of_make hmake]
      exact List.nodup_nil
  | step _ r ih => exact ih.step r

/-- Of every board that requests lead to: the claimed dots lie inside the area, and the registry
lists nobody twice; the snapshot lists exactly the claimed dots, in the order of their keys, so many
as are counted, and no more than the area has; and neither that number nor any coordinate along a
run overflows. -/
theorem reachable_wellFormed (h : Reachable area settings b) :
    (∀ d o, b.owner? d = some o → area.contains d = true) ∧ b.objects.Nodup ∧
      (b.occupiedDots.Pairwise fun d d' => d.key < d'.key) ∧
      (∀ d, (d ∈ b.occupiedDots ↔ b.dotOccupied d = true) ∧
        (b.dotOccupied d = true ↔ ∃ o, b.owner? d = some o)) ∧
      b.occupiedDots.length = b.occupiedCount ∧ b.occupiedCount ≤ area.size ∧
      (∃ n, area.sizeChecked? = some n ∧ n.toNat = area.size) ∧
      ∀ rs, b.traceChecked? rs = some (b.trace rs) := by
  have hwf := h.wellFormed
  obtain ⟨rfl, -⟩ := h.rules
  refine ⟨hwf.inside, hwf.nodup, b.pairwise_occupiedDots, fun d => ⟨mem_occupiedDots, ?_⟩,
    b.length_occupiedDots, hwf.occupiedCount_le, ⟨_, b.area.sizeChecked?_eq⟩, b.traceChecked?_eq⟩
  rw [dotOccupied_eq_isSome, Option.isSome_iff_exists]

/-- An object is placed with a repeated dot and moves on; the snapshot has its dots in order. -/
theorem reachable_wellFormed_moved :
    ∃ b : Board Nat, Reachable ⟨4, 3, by decide, by decide⟩ {} b ∧
      b.occupiedDots = [⟨0, 1⟩, ⟨1, 0⟩, ⟨3, 2⟩] ∧ b.occupiedCount = 3 ∧
      (∀ d o, b.owner? d = some o → d.x < 4 ∧ d.y < 3) ∧
      ∀ rs, b.traceChecked? rs = some (b.trace rs) := by
  have hb : Reachable ⟨4, 3, by decide, by decide⟩ {} _ :=
    ((Reachable.start (α := Nat) rfl).step (.create 0 ⟨[⟨3, 2⟩, ⟨0, 0⟩, ⟨3, 2⟩]⟩)).step
      (.update 0 ⟨[⟨0, 0⟩, ⟨3, 2⟩]⟩ ⟨[⟨3, 2⟩, ⟨1, 0⟩, ⟨0, 1⟩]⟩)
  obtain ⟨hinside, -, -, -, hlength, -, -, hchecked⟩ := reachable_wellFormed hb
  refine ⟨_, hb, rfl, hlength.symm, fun d o ho => ?_, hchecked⟩
  simpa [Area.contains] using hinside d o ho

end ClaimGrid.Board
