import Mathlib.Data.List.Forall2
import ClaimGrid.Proofs.Board.Lookups
import ClaimGrid.Proofs.Board.Refusal
import ClaimGrid.Proofs.Grid.DotSets

/-!
# Requests that name the same places

Two locations that hold the same dots name the same place, in whatever order they list the dots and
however often. A board takes them for the same: it refuses or grants both for the same reason, it is
the same board afterwards, and where a location is answered, the answers name the same place again.
So a run may be restated request by request.

## Main definitions

* `BoardRequest.Restates`: a request with its locations replaced by the same places.
* `Board.SameAnswer`: two answers that differ at most in how they list the dots of a place.

## Main results

* `Board.ext_owner?`: a board is determined by its owners, its registry and its rules.
* `Board.step_of_restates`, `Board.trace_of_restates`: requests and runs.
* `Board.restated_alike`: requests, runs and lookups.
-/

namespace ClaimGrid

namespace Location

variable {l l' : Location}

theorem SameDots.isEmpty_eq (h : l.SameDots l') : l.isEmpty = l'.isEmpty := by
  rw [Bool.eq_iff_iff, isEmpty_iff, isEmpty_iff]
  exact forall_congr' fun d => not_congr (h d)

theorem SameDots.containsLocation_eq (h : l.SameDots l') (area : Area) :
    area.containsLocation l = area.containsLocation l' := by
  rw [Bool.eq_iff_iff, Area.containsLocation, Area.containsLocation, List.all_eq_true,
    List.all_eq_true]
  exact forall_congr' fun d => imp_congr_left (h d)

end Location

namespace BoardRequest

variable {α : Type}

/-- The second request is the first one with its locations replaced by the same places. -/
inductive Restates : BoardRequest α → BoardRequest α → Prop where
  | refl (r : BoardRequest α) : Restates r r
  | create (o : α) {l l' : Location} (h : l.sameDots l' = true) :
      Restates (.create o l) (.create o l')
  | createAvailable (o : α) {l l' : Location} (h : l.sameDots l' = true) :
      Restates (.createAvailable o l) (.createAvailable o l')
  | update (o : α) {old old' new new' : Location} (hold : old.sameDots old' = true)
      (hnew : new.sameDots new' = true) : Restates (.update o old new) (.update o old' new')
  | updateAvailable (o : α) {old old' new new' : Location} (hold : old.sameDots old' = true)
      (hnew : new.sameDots new' = true) :
      Restates (.updateAvailable o old new) (.updateAvailable o old' new')
  | delete (o : α) {l l' : Location} (h : l.sameDots l' = true) :
      Restates (.delete o l) (.delete o l')

end BoardRequest

namespace Board

variable {α : Type}

/-- Two answers that differ at most in how they list the dots of a place. -/
def SameAnswer : Except BoardError Answer → Except BoardError Answer → Prop
  | .error e, .error e' => e = e'
  | .ok none, .ok none => True
  | .ok (some l), .ok (some l') => l.sameDots l' = true
  | _, _ => False

theorem SameAnswer.refl : (answer : Except BoardError Answer) → SameAnswer answer answer
  | .error _ => rfl
  | .ok none => trivial
  | .ok (some _) => Location.sameDots_iff.2 fun _ => Iff.rfl

variable {b b' : Board α} {o : α} {l l' old old' new new' : Location}

/-! ### What requests see of a location -/

theorem checkLocation_congr (h : l.SameDots l') : b.checkLocation l = b.checkLocation l' := by
  rw [checkLocation, checkLocation, h.isEmpty_eq, h.containsLocation_eq]

theorem isFree_congr (h : l.SameDots l') : b.IsFree l ↔ b.IsFree l' :=
  forall_congr' fun d => imp_congr_left (h d)

theorem freePart_congr (h : l.SameDots l') : (b.freePart l).SameDots (b.freePart l') := fun d => by
  rw [mem_freePart, mem_freePart, h d]

theorem reach_congr (hold : old.SameDots old') (hnew : new.SameDots new') :
    (b.reach old new).SameDots (b.reach old' new') := fun d => by
  rw [mem_reach, mem_reach, hnew d, hold d]

/-! ### What requests do with a location -/

/-- A board is determined by who claims which dot, by its registry and by its rules. -/
theorem ext_owner? (harea : b.area = b'.area) (hobjects : b.objects = b'.objects)
    (hstream : b.stream = b'.stream) (hretries : b.retries = b'.retries)
    (hcount : b.occupancy.shardCount = b'.occupancy.shardCount)
    (howner : ∀ d, b.owner? d = b'.owner? d) : b = b' := by
  have hoccupancy : b.occupancy = b'.occupancy := ShardMap.ext_get? hcount fun k => by
    have hk := howner (.ofKey k)
    rwa [owner?, owner?, Dot.key_ofKey] at hk
  obtain ⟨area, occupancy, objects, stream, retries⟩ := b
  obtain ⟨area', occupancy', objects', stream', retries'⟩ := b'
  cases harea
  cases hobjects
  cases hstream
  cases hretries
  cases hoccupancy
  rfl

theorem occupy_congr (h : l.SameDots l') : b.occupy o l = b.occupy o l' := by
  refine ext_owner? rfl rfl rfl rfl ?_ fun d => ?_
  · exact (ShardMap.shardCount_insertGroup ..).trans (ShardMap.shardCount_insertGroup ..).symm
  · rw [owner?_occupy, owner?_occupy, if_congr (h d) rfl rfl]

variable [DecidableEq α]

theorem release_congr (h : l.SameDots l') : b.release o l = b.release o l' := by
  refine ext_owner? rfl rfl rfl rfl ?_ fun d => ?_
  · exact (ShardMap.shardCount_eraseAllIf ..).trans (ShardMap.shardCount_eraseAllIf ..).symm
  · rw [owner?_release, owner?_release, if_congr (and_congr_left' (h d)) rfl rfl]

/-! ### Requests -/

theorem create_congr (h : l.SameDots l') : b.create o l = b.create o l' := by
  rw [create_eq, create_eq, checkLocation_congr h, occupy_congr h]
  simp only [isFree_congr h]

theorem createAvailable_congr (h : l.SameDots l') :
    (b.createAvailable o l).2 = (b.createAvailable o l').2 ∧
      SameAnswer (withLocation (b.createAvailable o l)).1
        (withLocation (b.createAvailable o l')).1 := by
  have hfree := freePart_congr (b := b) h
  rw [createAvailable_eq, createAvailable_eq, checkLocation_congr h, occupy_congr hfree]
  cases b.checkLocation l' with
  | error e => exact ⟨rfl, rfl⟩
  | ok u =>
    dsimp only
    split
    · exact ⟨rfl, rfl⟩
    · exact ⟨rfl, Location.sameDots_iff.2 hfree⟩

theorem update_congr (hold : old.SameDots old') (hnew : new.SameDots new') :
    b.update o old new = b.update o old' new' := by
  rw [update_eq, update_eq, checkLocation_congr hnew, occupy_congr (hnew.difference hold),
    release_congr (hold.difference hnew)]
  simp only [isFree_congr (hnew.difference hold)]

theorem updateAvailable_congr (hold : old.SameDots old') (hnew : new.SameDots new') :
    (b.updateAvailable o old new).2 = (b.updateAvailable o old' new').2 ∧
      SameAnswer (withLocation (b.updateAvailable o old new)).1
        (withLocation (b.updateAvailable o old' new')).1 := by
  have hreach := reach_congr (b := b) hold hnew
  rw [updateAvailable_eq, updateAvailable_eq, checkLocation_congr hnew, hreach.isEmpty_eq,
    occupy_congr (freePart_congr (hnew.difference hold)), release_congr (hold.difference hnew)]
  cases b.checkLocation new' with
  | error e => exact ⟨rfl, rfl⟩
  | ok u =>
    dsimp only
    split
    · split
      · exact ⟨rfl, rfl⟩
      · exact ⟨rfl, Location.sameDots_iff.2 hreach⟩
    · exact ⟨rfl, rfl⟩

theorem delete_congr (h : l.SameDots l') : b.delete o l = b.delete o l' := by
  rw [delete_eq, delete_eq, release_congr h]

/-- A restated request leads to the same board, and is answered the same. -/
theorem step_of_restates {r r' : BoardRequest α} (h : r.Restates r') :
    (b.step r).2 = (b.step r').2 ∧ SameAnswer (b.step r).1 (b.step r').1 := by
  -- where nothing but the board and the refusal is answered, the two outcomes are equal
  have heq (hstep : b.step r = b.step r') :
      (b.step r).2 = (b.step r').2 ∧ SameAnswer (b.step r).1 (b.step r').1 := by
    rw [hstep]
    exact ⟨rfl, SameAnswer.refl _⟩
  cases h with
  | refl => exact heq rfl
  | create o h =>
    exact heq (congrArg withoutLocation (create_congr (Location.sameDots_iff.1 h)))
  | createAvailable o h => exact createAvailable_congr (Location.sameDots_iff.1 h)
  | update o hold hnew =>
    exact heq (congrArg withoutLocation
      (update_congr (Location.sameDots_iff.1 hold) (Location.sameDots_iff.1 hnew)))
  | updateAvailable o hold hnew =>
    exact updateAvailable_congr (Location.sameDots_iff.1 hold) (Location.sameDots_iff.1 hnew)
  | delete o h =>
    exact heq (congrArg withoutLocation (delete_congr (Location.sameDots_iff.1 h)))

/-- A run that is restated request by request leads to the same boards, and is answered the same. -/
theorem trace_of_restates {rs rs' : List (BoardRequest α)}
    (h : List.Forall₂ BoardRequest.Restates rs rs') (b : Board α) :
    List.Forall₂ (fun x y => x.2 = y.2 ∧ SameAnswer x.1 y.1) (b.trace rs) (b.trace rs') := by
  induction h generalizing b with
  | nil => exact .nil
  | cons hr _ ih =>
    have hstep := step_of_restates (b := b) hr
    refine .cons hstep ?_
    rw [hstep.1]
    exact ih _

/-! ### Lookups -/

omit [DecidableEq α] in
theorem locationOccupied_congr (h : l.SameDots l') :
    b.locationOccupied l = b.locationOccupied l' := by
  have hall : l.keys.all b.occupancy.contains = l'.keys.all b.occupancy.contains := by
    rw [Location.keys, Location.keys, List.all_map, List.all_map, Bool.eq_iff_iff,
      List.all_eq_true, List.all_eq_true]
    exact forall_congr' fun d => imp_congr_left (h d)
  rw [locationOccupied, locationOccupied, h.isEmpty_eq, ShardMap.hasAll_eq, ShardMap.hasAll_eq,
    hall]

/-- Requests that name the same places are refused for the same reason or granted alike, with the
same board afterwards and, where a location is answered, the same place; so are runs of them,
request by request. Of two locations that name the same place, both are occupied or neither, and the
same objects are found there. -/
theorem restated_alike (b : Board α) :
    (∀ r r' : BoardRequest α, r.Restates r' →
      (b.step r).2 = (b.step r').2 ∧ SameAnswer (b.step r).1 (b.step r').1) ∧
    (∀ rs rs' : List (BoardRequest α), List.Forall₂ BoardRequest.Restates rs rs' →
      List.Forall₂ (fun x y => x.2 = y.2 ∧ SameAnswer x.1 y.1) (b.trace rs) (b.trace rs')) ∧
    ∀ l l' : Location, l.sameDots l' = true →
      b.locationOccupied l = b.locationOccupied l' ∧
        ∀ o, o ∈ b.objectsAt l ↔ o ∈ b.objectsAt l' := by
  refine ⟨fun r r' h => step_of_restates h, fun rs rs' h => trace_of_restates h b,
    fun l l' h => ?_⟩
  have hdots := Location.sameDots_iff.1 h
  refine ⟨locationOccupied_congr hdots, fun o => ?_⟩
  rw [mem_objectsAt, mem_objectsAt]
  exact exists_congr fun d => and_congr_left' (hdots d)

/-- A best-effort placement next to another object, with its dots in order and in disorder. -/
theorem restated_alike_disordered :
    ∃ b : Board Nat, Reachable ⟨4, 4, by decide, by decide⟩ {} b ∧
      let ordered : Location := ⟨[⟨0, 0⟩, ⟨1, 0⟩, ⟨2, 0⟩]⟩
      let disordered : Location := ⟨[⟨2, 0⟩, ⟨0, 0⟩, ⟨2, 0⟩, ⟨1, 0⟩]⟩
      ordered.sameDots disordered = true ∧
        (b.step (.createAvailable 1 ordered)).1 = .ok (some ⟨[⟨1, 0⟩, ⟨2, 0⟩]⟩) ∧
        (b.step (.createAvailable 1 disordered)).1 = .ok (some ⟨[⟨2, 0⟩, ⟨2, 0⟩, ⟨1, 0⟩]⟩) ∧
        (b.step (.createAvailable 1 ordered)).2 = (b.step (.createAvailable 1 disordered)).2 := by
  have hb : Reachable ⟨4, 4, by decide, by decide⟩ {} _ :=
    (Reachable.start (α := Nat) rfl).step (.create 0 (.ofDot ⟨0, 0⟩))
  refine ⟨_, hb, ?_⟩
  intro ordered disordered
  have hsame : ordered.sameDots disordered = true := rfl
  exact ⟨hsame, rfl, rfl, ((restated_alike _).1 _ _ (.createAvailable 1 hsame)).1⟩

end Board

end ClaimGrid
