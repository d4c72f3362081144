import ClaimGrid.Proofs.Association
import ClaimGrid.Proofs.Shard.Grouping
import ClaimGrid.Shard.Batch

/-!
# What batches store and remove

Each batch is described by the values it leaves behind, key by key. The order of the shards does not
show: of several pairs for a key the order in the batch decides, and grouping keeps that order.

## Main results

* `ShardMap.get?_insertGroup`: the last pair of a key is stored.
* `ShardMap.get?_eraseAll`: the listed keys are gone.
* `ShardMap.get?_claimFree`, `ShardMap.mem_claimFree`: the first pair of a free key is stored, and
  the key reported.
* `ShardMap.get?_eraseAllIf`: a listed key goes if its value satisfies the test.
-/

namespace ClaimGrid.ShardMap

variable {α : Type}

/-! ### Looking up keys in a grouped batch -/

theorem shardCount_pos (m : ShardMap α) : 0 < m.shardCount := m.shards_pos

theorem mem_groupKeys {m : ShardMap α} {ks : List Key} {k : Key} :
    k ∈ (m.groupKeys ks).flatMap ShardGroup.items ↔ k ∈ ks :=
  mem_flatMap_groupByShard m.shardCount_pos

theorem mem_groupPairs {m : ShardMap α} {pairs : List (Key × α)} {p : Key × α} :
    p ∈ (m.groupPairs pairs).flatMap ShardGroup.items ↔ p ∈ pairs :=
  mem_flatMap_groupByShard m.shardCount_pos

/-- The first value of a key is the same in a batch and in its groups. -/
theorem lookup_groupPairs (m : ShardMap α) (pairs : List (Key × α)) (k : Key) :
    ((m.groupPairs pairs).flatMap ShardGroup.items).lookup k = pairs.lookup k := by
  rw [lookup_eq_head?_filter, lookup_eq_head?_filter, groupPairs,
    filter_flatMap_groupByShard m.shardCount_pos]

/-- The last value of a key is the same in a batch and in its groups. -/
theorem lookup_reverse_groupPairs (m : ShardMap α) (pairs : List (Key × α)) (k : Key) :
    ((m.groupPairs pairs).flatMap ShardGroup.items).reverse.lookup k = pairs.reverse.lookup k := by
  rw [lookup_eq_head?_filter, lookup_eq_head?_filter, List.filter_reverse, List.filter_reverse,
    groupPairs, filter_flatMap_groupByShard m.shardCount_pos]

/-! ### Storing pairs -/

@[simp] theorem shardCount_insertGroup (pairs : List (Key × α)) (m : ShardMap α) :
    (m.insertGroup pairs).shardCount = m.shardCount := by
  induction pairs generalizing m with
  | nil => rfl
  | cons p pairs ih =>
    change ((m.insert p.1 p.2).insertGroup pairs).shardCount = _
    rw [ih, shardCount_insert]

theorem insertGroup_append (m : ShardMap α) (pairs pairs' : List (Key × α)) :
    m.insertGroup (pairs ++ pairs') = (m.insertGroup pairs).insertGroup pairs' :=
  List.foldl_append

theorem get?_insertGroup (pairs : List (Key × α)) (m : ShardMap α) (k : Key) :
    (m.insertGroup pairs).get? k = (pairs.reverse.lookup k).or (m.get? k) := by
  induction pairs generalizing m with
  | nil => rfl
  | cons p pairs ih =>
    change ((m.insert p.1 p.2).insertGroup pairs).get? k = _
    rw [ih, get?_insert, List.reverse_cons, List.lookup_append, Option.or_assoc]
    congr 1
    rw [lookup_cons_eq_ite, List.lookup_nil]
    split <;> rfl

theorem get?_insertGroup_of_notMem {pairs : List (Key × α)} {k : Key}
    (hk : k ∉ pairs.map Prod.fst) (m : ShardMap α) :
    (m.insertGroup pairs).get? k = m.get? k := by
  have hnone : pairs.reverse.lookup k = none := by
    rwa [lookup_eq_none_iff_notMem, List.map_reverse, List.mem_reverse]
  rw [get?_insertGroup, hnone, Option.none_or]

/-! ### Removing keys -/

@[simp] theorem shardCount_eraseGroup (ks : List Key) (m : ShardMap α) :
    (m.eraseGroup ks).shardCount = m.shardCount := by
  induction ks generalizing m with
  | nil => rfl
  | cons k ks ih =>
    change ((m.erase k).eraseGroup ks).shardCount = _
    rw [ih, shardCount_erase]

theorem get?_eraseGroup (ks : List Key) (m : ShardMap α) (k : Key) :
    (m.eraseGroup ks).get? k = if k ∈ ks then none else m.get? k := by
  induction ks generalizing m with
  | nil => simp [eraseGroup]
  | cons k' ks ih =>
    change ((m.erase k').eraseGroup ks).get? k = _
    rw [ih, get?_erase]
    by_cases hk : k' = k
    · simp [hk]
    · simp [hk, Ne.symm hk]

theorem eraseAll_eq (m : ShardMap α) (ks : List Key) :
    m.eraseAll ks = m.eraseGroup ((m.groupKeys ks).flatMap ShardGroup.items) :=
  List.foldl_flatMap.symm

@[simp] theorem shardCount_eraseAll (m : ShardMap α) (ks : List Key) :
    (m.eraseAll ks).shardCount = m.shardCount := by
  rw [eraseAll_eq, shardCount_eraseGroup]

theorem get?_eraseAll (m : ShardMap α) (ks : List Key) (k : Key) :
    (m.eraseAll ks).get? k = if k ∈ ks then none else m.get? k := by
  simp only [eraseAll_eq, get?_eraseGroup, mem_groupKeys]

/-! ### Storing what is free -/

theorem claimFree_eq (m : ShardMap α) (pairs : List (Key × α)) :
    m.claimFree pairs =
      let state := ((m.groupPairs pairs).flatMap ShardGroup.items).foldl claimFreeStep ([], m)
      (state.1.reverse, state.2) := by
  rw [List.foldl_flatMap]
  rfl

theorem shardCount_foldl_claimFreeStep (pairs : List (Key × α)) (state : List Key × ShardMap α) :
    (pairs.foldl claimFreeStep state).2.shardCount = state.2.shardCount := by
  induction pairs generalizing state with
  | nil => rfl
  | cons p pairs ih =>
    rw [List.foldl_cons, ih, claimFreeStep]
    split
    · rfl
    · exact shardCount_insert ..

theorem get?_foldl_claimFreeStep (pairs : List (Key × α)) (state : List Key × ShardMap α)
    (k : Key) :
    (pairs.foldl claimFreeStep state).2.get? k = (state.2.get? k).or (pairs.lookup k) := by
  induction pairs generalizing state with
  | nil => simp
  | cons p pairs ih =>
    rw [List.foldl_cons, ih, claimFreeStep, contains_eq_isSome, lookup_cons_eq_ite]
    by_cases hk : p.1 = k
    · subst hk
      cases hget : state.2.get? p.1 <;> simp [hget, get?_insert]
    · split <;> simp [get?_insert, hk]

theorem mem_foldl_claimFreeStep (pairs : List (Key × α)) (state : List Key × ShardMap α)
    (k : Key) :
    k ∈ (pairs.foldl claimFreeStep state).1 ↔
      k ∈ state.1 ∨ (state.2.get? k = none ∧ k ∈ pairs.map Prod.fst) := by
  induction pairs generalizing state with
  | nil => simp
  | cons p pairs ih =>
    rw [List.foldl_cons, ih, claimFreeStep, contains_eq_isSome, List.map_cons, List.mem_cons]
    by_cases hk : k = p.1
    · subst hk
      cases hget : state.2.get? p.1 <;> simp [hget, get?_insert]
    · split <;> simp [get?_insert, hk, Ne.symm hk]

@[simp] theorem shardCount_claimFree (m : ShardMap α) (pairs : List (Key × α)) :
    (m.claimFree pairs).2.shardCount = m.shardCount := by
  rw [claimFree_eq]
  exact shardCount_foldl_claimFreeStep ..

/-- A free key takes the first value listed for it. -/
theorem get?_claimFree (m : ShardMap α) (pairs : List (Key × α)) (k : Key) :
    (m.claimFree pairs).2.get? k = (m.get? k).or (pairs.lookup k) := by
  rw [claimFree_eq]
  exact (get?_foldl_claimFreeStep ..).trans (by rw [lookup_groupPairs])

/-- The report lists the keys that were free. -/
theorem mem_claimFree {m : ShardMap α} {pairs : List (Key × α)} {k : Key} :
    k ∈ (m.claimFree pairs).1 ↔ m.get? k = none ∧ k ∈ pairs.map Prod.fst := by
  rw [claimFree_eq]
  simp only [List.mem_reverse, mem_foldl_claimFreeStep, List.not_mem_nil, false_or, List.mem_map,
    mem_groupPairs]

/-! ### Removing what satisfies a test -/

theorem eraseAllIf_eq (m : ShardMap α) (ks : List Key) (p : α → Bool) :
    m.eraseAllIf ks p =
      let state := ((m.groupKeys ks).flatMap ShardGroup.items).foldl (eraseIfStep p) ([], m)
      (state.1.reverse, state.2) := by
  rw [List.foldl_flatMap]
  rfl

theorem shardCount_foldl_eraseIfStep (p : α → Bool) (ks : List Key)
    (state : List Key × ShardMap α) :
    (ks.foldl (eraseIfStep p) state).2.shardCount = state.2.shardCount := by
  induction ks generalizing state with
  | nil => rfl
  | cons k ks ih =>
    rw [List.foldl_cons, ih, eraseIfStep]
    split
    · exact shardCount_erase k
    · rfl

theorem get?_foldl_eraseIfStep (p : α → Bool) (ks : List Key) (state : List Key × ShardMap α)
    (k : Key) :
    (ks.foldl (eraseIfStep p) state).2.get? k =
      if k ∈ ks ∧ (state.2.get? k).any p then none else state.2.get? k := by
  induction ks generalizing state with
  | nil => simp
  | cons k' ks ih =>
    rw [List.foldl_cons, ih, eraseIfStep]
    by_cases hk : k = k'
    · subst hk
      by_cases hp : (state.2.get? k).any p <;> simp [hp, get?_erase]
    · split <;> simp [get?_erase, hk, Ne.symm hk]

@[simp] theorem shardCount_eraseAllIf (m : ShardMap α) (ks : List Key) (p : α → Bool) :
    (m.eraseAllIf ks p).2.shardCount = m.shardCount := by
  rw [eraseAllIf_eq]
  exact shardCount_foldl_eraseIfStep ..

theorem get?_eraseAllIf (m : ShardMap α) (ks : List Key) (p : α → Bool) (k : Key) :
    (m.eraseAllIf ks p).2.get? k =
      if k ∈ ks ∧ (m.get? k).any p then none else m.get? k := by
  rw [eraseAllIf_eq]
  exact (get?_foldl_eraseIfStep ..).trans (by simp only [mem_groupKeys])

end ClaimGrid.ShardMap
