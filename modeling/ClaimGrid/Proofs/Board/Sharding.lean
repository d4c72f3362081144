import ClaimGrid.Board.Call
import ClaimGrid.Proofs.Board.Outcome
import ClaimGrid.Proofs.Board.Search
import ClaimGrid.Proofs.Shard.Lookup
import ClaimGrid.Proofs.Shard.Snapshot

/-!
# The number of shards does not show

How many shards the claims are cut into decides in which order a batch is worked off, which shard
finds a conflict and how much is taken before it is given back. None of this reaches an answer: two
boards that differ in their shards only answer every call alike, and go on differing in their shards
only. In particular their random placements draw the same words.

## Main definitions

* `Board.SameClaims`: two boards that differ in their shards only.
* `Board.Alike`: two outcomes with the same answer that leave such boards.

## Main results

* `Board.SameClaims.step`, `Board.SameClaims.call`: requests and lookups.
* `Board.replies_eq_of_shardCount`: whole runs, for any two numbers of shards.
-/

namespace ClaimGrid.Board

variable {α β : Type} {b b' : Board α} {o : α}

/-- Two boards that differ in their shards only. -/
structure SameClaims (b b' : Board α) : Prop where
  area_eq : b.area = b'.area
  objects_eq : b.objects = b'.objects
  stream_eq : b.stream = b'.stream
  retries_eq : b.retries = b'.retries
  get?_eq : ∀ k, b.occupancy.get? k = b'.occupancy.get? k

/-- Two outcomes with the same answer, on boards that differ in their shards only. -/
def Alike (x y : Except BoardError β × Board α) : Prop := x.1 = y.1 ∧ x.2.SameClaims y.2

namespace SameClaims

/-! ### What the parts of a request see -/

theorem owner?_eq (h : b.SameClaims b') (d : Dot) : b.owner? d = b'.owner? d := h.get?_eq d.key

theorem checkLocation_eq (h : b.SameClaims b') (l : Location) :
    b.checkLocation l = b'.checkLocation l := by
  rw [checkLocation, checkLocation, h.area_eq]

theorem isFree_iff (h : b.SameClaims b') (l : Location) : b.IsFree l ↔ b'.IsFree l := by
  simp only [IsFree, h.owner?_eq]

theorem freePart_eq (h : b.SameClaims b') (l : Location) : b.freePart l = b'.freePart l := by
  simp only [freePart, h.owner?_eq]

theorem reach_eq (h : b.SameClaims b') (old new : Location) :
    b.reach old new = b'.reach old new := by
  simp only [reach, h.owner?_eq]

theorem contains_eq (h : b.SameClaims b') : b.occupancy.contains = b'.occupancy.contains := by
  funext k
  rw [ShardMap.contains_eq_isSome, ShardMap.contains_eq_isSome, h.get?_eq]

theorem items_eq (h : b.SameClaims b') : b.occupancy.items = b'.occupancy.items :=
  ShardMap.items_congr h.get?_eq

theorem isClear_eq (h : b.SameClaims b') (c : Candidate) : b.isClear c = b'.isClear c := by
  simp only [isClear, ShardMap.hasAny_eq, h.contains_eq]

/-! ### Lookups -/

theorem locationOccupied_eq (h : b.SameClaims b') (l : Location) :
    b.locationOccupied l = b'.locationOccupied l := by
  rw [locationOccupied, locationOccupied, ShardMap.hasAll_eq, ShardMap.hasAll_eq, h.contains_eq]

theorem occupiedCount_eq (h : b.SameClaims b') : b.occupiedCount = b'.occupiedCount := by
  rw [occupiedCount, occupiedCount, ShardMap.size_eq_size_items, ShardMap.size_eq_size_items,
    h.items_eq]

theorem outline_eq (h : b.SameClaims b') : b.outline = b'.outline := by
  rw [outline, outline, h.area_eq, h.occupiedCount_eq, objectCount, objectCount, h.objects_eq]

theorem objectsAt_eq [DecidableEq α] (h : b.SameClaims b') (l : Location) :
    b.objectsAt l = b'.objectsAt l := by
  have hfound : b.occupancy.getMany l.keys = b'.occupancy.getMany l.keys := by
    refine Std.ExtTreeMap.ext_getElem? fun k => ?_
    rw [ShardMap.getElem?_getMany, ShardMap.getElem?_getMany, h.get?_eq]
  rw [objectsAt, objectsAt, hfound]

/-! ### The changes that requests are made of -/

theorem occupy (h : b.SameClaims b') (o : α) (l : Location) :
    (b.occupy o l).SameClaims (b'.occupy o l) := by
  refine { h with get?_eq := fun k => ?_ }
  change (b.occupancy.insertGroup _).get? k = (b'.occupancy.insertGroup _).get? k
  rw [ShardMap.get?_insertGroup, ShardMap.get?_insertGroup, h.get?_eq]

theorem enlist (h : b.SameClaims b') (o : α) : (b.enlist o).SameClaims (b'.enlist o) :=
  { h with objects_eq := congrArg (· ++ [o]) h.objects_eq }

theorem seek (h : b.SameClaims b') (s : WordStream) : (b.seek s).SameClaims (b'.seek s) :=
  { h with stream_eq := rfl }

variable [DecidableEq α]

theorem isRegistered_eq (h : b.SameClaims b') (o : α) : b.isRegistered o = b'.isRegistered o := by
  rw [isRegistered, isRegistered, h.objects_eq]

theorem release (h : b.SameClaims b') (o : α) (l : Location) :
    (b.release o l).SameClaims (b'.release o l) := by
  refine { h with get?_eq := fun k => ?_ }
  change (b.occupancy.eraseAllIf _ _).2.get? k = (b'.occupancy.eraseAllIf _ _).2.get? k
  rw [ShardMap.get?_eraseAllIf, ShardMap.get?_eraseAllIf, h.get?_eq]

theorem strike (h : b.SameClaims b') (o : α) : (b.strike o).SameClaims (b'.strike o) :=
  { h with objects_eq := congrArg (·.erase o) h.objects_eq }

/-! ### Requests that name their dots -/

theorem create (h : b.SameClaims b') (o : α) (l : Location) :
    Alike (b.create o l) (b'.create o l) := by
  rw [create_eq, create_eq, h.checkLocation_eq, h.isRegistered_eq]
  simp only [h.isFree_iff]
  cases b'.checkLocation l with
  | error e => exact ⟨rfl, h⟩
  | ok u =>
    dsimp only
    split
    · exact ⟨rfl, h⟩
    · split
      · exact ⟨rfl, (h.occupy o l).enlist o⟩
      · exact ⟨rfl, h⟩

theorem createAvailable (h : b.SameClaims b') (o : α) (l : Location) :
    Alike (b.createAvailable o l) (b'.createAvailable o l) := by
  rw [createAvailable_eq, createAvailable_eq, h.checkLocation_eq, h.isRegistered_eq, h.freePart_eq]
  cases b'.checkLocation l with
  | error e => exact ⟨rfl, h⟩
  | ok u =>
    dsimp only
    split
    · exact ⟨rfl, h⟩
    · exact ⟨rfl, (h.occupy o _).enlist o⟩

theorem update (h : b.SameClaims b') (o : α) (old new : Location) :
    Alike (b.update o old new) (b'.update o old new) := by
  rw [update_eq, update_eq, h.checkLocation_eq, h.isRegistered_eq]
  simp only [h.isFree_iff]
  cases b'.checkLocation new with
  | error e => exact ⟨rfl, h⟩
  | ok u =>
    dsimp only
    split
    · split
      · exact ⟨rfl, (h.occupy o _).release o _⟩
      · exact ⟨rfl, h⟩
    · exact ⟨rfl, h⟩

theorem updateAvailable (h : b.SameClaims b') (o : α) (old new : Location) :
    Alike (b.updateAvailable o old new) (b'.updateAvailable o old new) := by
  rw [updateAvailable_eq, updateAvailable_eq, h.checkLocation_eq, h.isRegistered_eq, h.reach_eq,
    h.freePart_eq]
  cases b'.checkLocation new with
  | error e => exact ⟨rfl, h⟩
  | ok u =>
    dsimp only
    split
    · split
      · exact ⟨rfl, h⟩
      · exact ⟨rfl, (h.occupy o _).release o _⟩
    · exact ⟨rfl, h⟩

theorem delete (h : b.SameClaims b') (o : α) (l : Location) :
    Alike (b.delete o l) (b'.delete o l) := by
  rw [delete_eq, delete_eq, h.isRegistered_eq]
  split
  · exact ⟨rfl, (h.release o l).strike o⟩
  · exact ⟨rfl, h⟩

/-! ### Random placements -/

/-- Two searches see the same candidates, and stop at the same one. -/
theorem placeWithin (h : b.SameClaims b') (hreg : b.isRegistered o = false) (sample : Sampler)
    (n : Nat) : Alike (placeWithin o sample n b) (placeWithin o sample n b') := by
  induction n generalizing b b' with
  | zero => exact ⟨congrArg (Except.error ∘ BoardError.retriesExhausted) h.retries_eq, h⟩
  | succ n ih =>
    have hreg' : b'.isRegistered o = false := h.isRegistered_eq o ▸ hreg
    rw [placeWithin_succ hreg, placeWithin_succ hreg', h.stream_eq]
    simp only [h.isFree_iff, h.isClear_eq]
    cases (sample b'.stream).1 with
    | error e => exact ⟨rfl, h.seek _⟩
    | ok c =>
      dsimp only
      split
      · exact ⟨rfl, ((h.seek _).occupy o _).enlist o⟩
      · exact ih (h.seek _) hreg

theorem place (h : b.SameClaims b') (o : α) (sample : Sampler) :
    Alike (b.place o sample) (b'.place o sample) := by
  rw [Board.place, Board.place, ← h.isRegistered_eq, ← h.retries_eq]
  split
  · exact ⟨rfl, h⟩
  · rename_i hreg
    exact h.placeWithin (Bool.eq_false_iff.2 hreg) sample _

theorem createRandomDot (h : b.SameClaims b') (o : α) :
    Alike (b.createRandomDot o) (b'.createRandomDot o) := by
  rw [Board.createRandomDot, Board.createRandomDot, h.area_eq]
  exact h.place o _

theorem createRandomRect (h : b.SameClaims b') (o : α) (width height : UInt8) :
    Alike (b.createRandomRect o width height) (b'.createRandomRect o width height) := by
  rw [Board.createRandomRect, Board.createRandomRect, h.area_eq]
  exact h.place o _

theorem createRandomRectMargin (h : b.SameClaims b') (o : α) (width height margin : UInt8) :
    Alike (b.createRandomRectMargin o width height margin)
      (b'.createRandomRectMargin o width height margin) := by
  rw [Board.createRandomRectMargin, Board.createRandomRectMargin, h.area_eq]
  split
  · exact ⟨rfl, h⟩
  · split
    · exact h.place o _
    · exact ⟨rfl, h⟩

theorem createRandomMask (h : b.SameClaims b') (o : α) (m : Mask) :
    Alike (b.createRandomMask o m) (b'.createRandomMask o m) := by
  rw [Board.createRandomMask, Board.createRandomMask, h.area_eq]
  split
  · exact ⟨rfl, h⟩
  · split
    · exact h.place o _
    · exact ⟨rfl, h⟩

end SameClaims

theorem Alike.withoutLocation {x y : Except BoardError Unit × Board α} (h : Alike x y) :
    Alike (withoutLocation x) (withoutLocation y) :=
  ⟨congrArg (Except.map fun _ => none) h.1, h.2⟩

theorem Alike.withLocation {x y : Except BoardError Location × Board α} (h : Alike x y) :
    Alike (withLocation x) (withLocation y) :=
  ⟨congrArg (Except.map some) h.1, h.2⟩

/-! ### Calls -/

namespace SameClaims

variable [DecidableEq α]

/-- A request is answered alike, and leaves boards that differ in their shards only. -/
theorem step (h : b.SameClaims b') (r : BoardRequest α) : Alike (b.step r) (b'.step r) := by
  cases r with
  | create o l => exact (h.create o l).withoutLocation
  | createAvailable o l => exact (h.createAvailable o l).withLocation
  | createRandomDot o => exact (h.createRandomDot o).withLocation
  | createRandomRect o width height => exact (h.createRandomRect o width height).withLocation
  | createRandomRectMargin o width height margin =>
    exact (h.createRandomRectMargin o width height margin).withLocation
  | createRandomMask o m => exact (h.createRandomMask o m).withLocation
  | update o old new => exact (h.update o old new).withoutLocation
  | updateAvailable o old new => exact (h.updateAvailable o old new).withLocation
  | delete o l => exact (h.delete o l).withoutLocation

theorem call (h : b.SameClaims b') (c : BoardCall α) :
    (b.call c).1 = (b'.call c).1 ∧ (b.call c).2.SameClaims (b'.call c).2 := by
  cases c with
  | request r =>
    obtain ⟨hanswer, hboard⟩ := h.step r
    exact ⟨congrArg BoardReply.outcome hanswer, hboard⟩
  | locationOccupied l => exact ⟨congrArg BoardReply.flag (h.locationOccupied_eq l), h⟩
  | dotOccupied d => exact ⟨congrArg BoardReply.flag (congrFun h.contains_eq d.key), h⟩
  | objectAt d => exact ⟨congrArg BoardReply.object (h.owner?_eq d), h⟩
  | objectsAt l => exact ⟨congrArg BoardReply.objects (h.objectsAt_eq l), h⟩
  | objects => exact ⟨congrArg BoardReply.objects h.objects_eq, h⟩
  | isRegistered o => exact ⟨congrArg BoardReply.flag (h.isRegistered_eq o), h⟩
  | objectCount => exact ⟨congrArg (BoardReply.count ∘ List.length) h.objects_eq, h⟩
  | occupiedCount => exact ⟨congrArg BoardReply.count h.occupiedCount_eq, h⟩
  | occupiedDots =>
    refine ⟨congrArg BoardReply.dots ?_, h⟩
    rw [occupiedDots, occupiedDots, h.items_eq]
  | navigate d direction distance =>
    refine ⟨congrArg BoardReply.dot ?_, h⟩
    rw [navigate, navigate, h.area_eq]
  | area => exact ⟨congrArg BoardReply.area h.area_eq, h⟩
  | outline => exact ⟨congrArg BoardReply.outline h.outline_eq, h⟩

/-! ### Runs -/

theorem replies_eq (h : b.SameClaims b') (cs : List (BoardCall α)) :
    b.replies cs = b'.replies cs := by
  induction cs generalizing b b' with
  | nil => rfl
  | cons c cs ih =>
    obtain ⟨hreply, hboard⟩ := h.call c
    rw [replies, replies, hreply, ih hboard]

end SameClaims

/-- Settings that pass the check make a board. -/
theorem make_of_validate (area : Area) {settings : BoardSettings}
    (h : settings.validate = .ok ()) : ∃ b : Board α, make area settings = .ok b := by
  have hcount : 0 < settings.shardCount.toNat := by
    rw [BoardSettings.validate] at h
    split at h
    · exact absurd h nofun
    · rename_i hne
      exact Nat.pos_of_ne_zero fun he => hne (UInt64.toNat_inj.1 he)
  rw [make, h]
  dsimp only
  rw [ShardMap.make, dif_pos hcount]
  exact ⟨_, rfl⟩

/-- Two boards made with settings that differ in the number of shards only differ in their shards
only: both are empty. -/
theorem sameClaims_of_make {area : Area} {settings : BoardSettings} {n : UInt64}
    (hb : make area settings = .ok b)
    (hb' : make area { settings with shardCount := n } = .ok b') : b.SameClaims b' := by
  obtain ⟨hn, rfl⟩ := make_eq_ok hb
  obtain ⟨hn', rfl⟩ := make_eq_ok hb'
  refine ⟨rfl, rfl, rfl, rfl, fun k => ?_⟩
  rw [ShardMap.get?_empty, ShardMap.get?_empty]

/-- The number of shards does not show. If settings pass the check with two numbers of shards, then
both make a board, and the two boards answer every list of calls alike, call by call. -/
theorem replies_eq_of_shardCount [DecidableEq α] (area : Area) (settings : BoardSettings)
    (n : UInt64) (h : settings.validate = .ok ())
    (hn : { settings with shardCount := n }.validate = .ok ()) :
    ∃ b b' : Board α, make area settings = .ok b ∧
      make area { settings with shardCount := n } = .ok b' ∧
      ∀ cs : List (BoardCall α), b.replies cs = b'.replies cs := by
  obtain ⟨b, hb⟩ := make_of_validate (α := α) area h
  obtain ⟨b', hb'⟩ := make_of_validate (α := α) area hn
  exact ⟨b, b', hb, hb', (sameClaims_of_make hb hb').replies_eq⟩

/-- A claim that one shard refuses at once, and that many shards take in part and give back. -/
theorem replies_eq_of_shardCount_conflict :
    ∃ b b' : Board Nat, make ⟨4, 4, by decide, by decide⟩ {} = .ok b ∧
      make ⟨4, 4, by decide, by decide⟩ { shardCount := 1 } = .ok b' ∧
      let calls := [.request (.create 0 (.ofDot ⟨0, 1⟩)),
        .request (.create 1 ⟨[⟨0, 0⟩, ⟨0, 1⟩]⟩),
        .request (.createAvailable 1 ⟨[⟨0, 1⟩, ⟨0, 0⟩]⟩), .occupiedDots]
      b.replies calls = b'.replies calls ∧
        b'.replies calls = [.outcome (.ok none), .outcome (.error .locationOccupied),
          .outcome (.ok (some (.ofDot ⟨0, 0⟩))), .dots [⟨0, 0⟩, ⟨0, 1⟩]] := by
  obtain ⟨b, b', hb, hb', h⟩ :=
    replies_eq_of_shardCount (α := Nat) ⟨4, 4, by decide, by decide⟩ {} 1 rfl rfl
  refine ⟨b, b', hb, hb', h _, ?_⟩
  obtain rfl := Except.ok.inj hb'
  rfl

end ClaimGrid.Board
