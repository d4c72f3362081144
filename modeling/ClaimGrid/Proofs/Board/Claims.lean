import ClaimGrid.Board.Basic
import ClaimGrid.Proofs.Shard.Claim

/-!
# Claims of a board, dot by dot

The changes that requests are made of, seen through `Board.owner?`. Keys and dots correspond one to
one, so what a batch does to the keys of a location is what it does to its dots.

## Main definitions

* `Board.IsFree`: nobody claims a dot of a location.
* `Board.freePart`: the dots of a location that nobody claims.
* `Board.occupy`: the claims after an object took all dots of a location.
* `Board.enlist`, `Board.strike`: the registry with one object more, or less.

## Main results

* `Board.claim_eq`: a claim takes a free location, and changes nothing otherwise.
* `Board.claimFree_eq`: a best-effort claim takes the free part of a location.
* `Board.owner?_occupy`, `Board.owner?_release`: who claims a dot afterwards.
* `Board.make_eq_ok`: what a board is made of.
-/

namespace ClaimGrid.Board

variable {α : Type} (b : Board α) (o : α) (l : Location)

/-- Nobody claims a dot of the location. -/
def IsFree : Prop := ∀ d ∈ l, b.owner? d = none

instance : Decidable (b.IsFree l) :=
  inferInstanceAs (Decidable (∀ d ∈ l.dots, b.owner? d = none))

/-- The dots of a location that nobody claims, in order. -/
def freePart : Location := ⟨l.dots.filter fun d => (b.owner? d).isNone⟩

/-- The board after an object took every dot of a location. -/
def occupy : Board α := { b with occupancy := b.occupancy.insertGroup (claimsOf o l) }

/-- The board with an object listed last. -/
def enlist : Board α := { b with objects := b.objects ++ [o] }

/-- The board with an object no longer listed. -/
def strike [DecidableEq α] : Board α := { b with objects := b.objects.erase o }

variable {b o l}

@[simp] theorem mem_freePart {d : Dot} : d ∈ b.freePart l ↔ d ∈ l ∧ b.owner? d = none := by
  rw [Location.mem_def, freePart, List.mem_filter, Option.isNone_iff_eq_none, Location.mem_def]

/-! ### What the changes leave alone -/

@[simp] theorem area_occupy : (b.occupy o l).area = b.area := rfl

@[simp] theorem objects_occupy : (b.occupy o l).objects = b.objects := rfl

@[simp] theorem stream_occupy : (b.occupy o l).stream = b.stream := rfl

@[simp] theorem retries_occupy : (b.occupy o l).retries = b.retries := rfl

@[simp] theorem owner?_enlist (d : Dot) : (b.enlist o).owner? d = b.owner? d := rfl

@[simp] theorem objects_enlist : (b.enlist o).objects = b.objects ++ [o] := rfl

section Registry

variable [DecidableEq α]

@[simp] theorem area_release : (b.release o l).area = b.area := rfl

@[simp] theorem objects_release : (b.release o l).objects = b.objects := rfl

@[simp] theorem stream_release : (b.release o l).stream = b.stream := rfl

@[simp] theorem retries_release : (b.release o l).retries = b.retries := rfl

@[simp] theorem owner?_strike (d : Dot) : (b.strike o).owner? d = b.owner? d := rfl

@[simp] theorem objects_strike : (b.strike o).objects = b.objects.erase o := rfl

theorem isRegistered_iff : b.isRegistered o = true ↔ o ∈ b.objects := List.contains_iff_mem

theorem isRegistered_eq_false_iff : b.isRegistered o = false ↔ o ∉ b.objects := by
  rw [← Bool.not_eq_true, isRegistered_iff]

/-- An object that is not listed yet is listed last. -/
theorem register_of_not_isRegistered (h : b.isRegistered o = false) (l : Location) :
    b.register o l = (.ok (), b.enlist o) := by
  rw [register, h]
  rfl

theorem unregister_of_isRegistered (h : b.isRegistered o = true) :
    b.unregister o = (.ok (), b.strike o) := by
  rw [unregister, if_pos h]
  rfl

end Registry

/-! ### The empty board -/

/-- A board that could be made has the settings it was made with, and nothing on it. -/
theorem make_eq_ok {area : Area} {settings : BoardSettings} (h : make area settings = .ok b) :
    ∃ hn, b = { area := area, occupancy := .empty settings.shardCount.toNat hn, objects := [],
                stream := WordStream.ofSeed settings.seed,
                retries := settings.placementRetries } := by
  rw [make] at h
  split at h
  · exact absurd h nofun
  · split at h
    · exact absurd h nofun
    · rename_i hmake
      rw [ShardMap.make] at hmake
      split at hmake
      · rename_i hn
        obtain rfl := Except.ok.inj hmake
        exact ⟨hn, (Except.ok.inj h).symm⟩
      · exact absurd hmake nofun

theorem objects_of_make {area : Area} {settings : BoardSettings}
    (h : make area settings = .ok b) : b.objects = [] := by
  obtain ⟨hn, rfl⟩ := make_eq_ok h
  rfl

theorem owner?_of_make {area : Area} {settings : BoardSettings}
    (h : make area settings = .ok b) (d : Dot) : b.owner? d = none := by
  obtain ⟨hn, rfl⟩ := make_eq_ok h
  exact ShardMap.get?_empty _ hn d.key

/-! ### Who claims a dot afterwards -/

theorem lookup_claimsOf (o : α) (l : Location) (d : Dot) :
    (claimsOf o l).lookup d.key = if d ∈ l then some o else none := by
  obtain ⟨ds⟩ := l
  simp only [Location.mem_def]
  induction ds with
  | nil => rfl
  | cons d' ds ih =>
    change ((d'.key, o) :: claimsOf o ⟨ds⟩).lookup d.key = _
    rw [lookup_cons_eq_ite, ih]
    by_cases hd : d' = d
    · simp [hd]
    · simp [hd, Dot.key_inj, Ne.symm hd]

theorem lookup_reverse_claimsOf (o : α) (l : Location) (d : Dot) :
    (claimsOf o l).reverse.lookup d.key = if d ∈ l then some o else none := by
  rw [claimsOf, ← List.map_reverse]
  refine (lookup_claimsOf o l.reverse d).trans ?_
  simp only [Location.reverse, Location.mem_def, List.mem_reverse]

theorem owner?_occupy (d : Dot) :
    (b.occupy o l).owner? d = if d ∈ l then some o else b.owner? d := by
  change (b.occupancy.insertGroup (claimsOf o l)).get? d.key = _
  rw [ShardMap.get?_insertGroup, lookup_reverse_claimsOf]
  split <;> rfl

theorem owner?_release [DecidableEq α] (d : Dot) :
    (b.release o l).owner? d = if d ∈ l ∧ b.owner? d = some o then none else b.owner? d := by
  change (b.occupancy.eraseAllIf l.keys fun owner => owner == o).2.get? d.key = _
  simp only [ShardMap.get?_eraseAllIf, Location.mem_keys]
  change (if d ∈ l ∧ (b.owner? d).any (fun owner => owner == o) = true then none
    else b.owner? d) = _
  cases b.owner? d <;> simp

/-! ### Claims -/

theorem claim_eq :
    b.claim o l = if b.IsFree l then (true, b.occupy o l) else (false, b) := by
  have hfree : (∀ p ∈ claimsOf o l, b.occupancy.get? p.1 = none) ↔ b.IsFree l :=
    List.forall_mem_map
  rw [claim, ShardMap.claimAll_eq]
  simp only [hfree]
  split <;> rfl

/-- A best-effort claim reports the keys of the free part of the location. -/
theorem contains_claimFree {d : Dot} :
    (b.claimFree o l).1.contains d.key = true ↔ d ∈ b.freePart l := by
  rw [claimFree, Std.TreeSet.contains_ofList, List.contains_iff_mem, ShardMap.mem_claimFree,
    mem_freePart, and_comm, claimsOf, List.map_map]
  exact and_congr_left fun _ => Location.mem_keys

/-- A best-effort claim takes the free part of the location. -/
theorem claimFree_eq : (b.claimFree o l).2 = b.occupy o (b.freePart l) := by
  have hmap : (b.occupancy.claimFree (claimsOf o l)).2 =
      b.occupancy.insertGroup (claimsOf o (b.freePart l)) := by
    refine ShardMap.ext_get? (by simp) fun k => ?_
    obtain ⟨d, rfl⟩ : ∃ d : Dot, d.key = k := ⟨.ofKey k, Dot.key_ofKey k⟩
    rw [ShardMap.get?_claimFree, ShardMap.get?_insertGroup, lookup_claimsOf,
      lookup_reverse_claimsOf]
    change (b.owner? d).or _ = Option.or _ (b.owner? d)
    cases hd : b.owner? d <;> simp [hd]
  change { b with occupancy := _ } = { b with occupancy := _ }
  rw [hmap]

end ClaimGrid.Board
