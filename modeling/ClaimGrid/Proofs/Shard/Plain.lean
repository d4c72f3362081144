import ClaimGrid.Shard.Request
import ClaimGrid.Proofs.Shard.Claim
import ClaimGrid.Proofs.Shard.Lookup
import ClaimGrid.Proofs.Shard.Snapshot

/-!
# A sharded map is one plain map

The calls to a sharded map are given a second meaning, on one plain map that knows of no shards and
works a batch off pair by pair, in the order of the batch. Taking the items of a sharded map leads
from the one meaning to the other: it commutes with every call, and so with every run.

## Main definitions

* `PlainMap.step`, `PlainMap.run`, `PlainMap.answers`: the calls on one plain map.
* `ShardMap.Presents`: a sharded map holds what a plain map holds, each key in its shard, and every
  view of it is that of the plain map.

## Main results

* `ShardMap.step_eq_plain`: a call answers and changes what it does on the plain map.
* `ShardMap.presents_items`: every sharded map presents its items.
* `ShardMap.run_eq_plain`: runs.
-/

namespace ClaimGrid

/-- One map, without shards. -/
abbrev PlainMap (α : Type) := Std.ExtTreeMap Key α

namespace PlainMap

variable {α : Type}

/-- The answer to a call and the map after it. Batches are worked off from their first item to the
last. -/
def step (t : PlainMap α) : MapRequest α → MapAnswer α × PlainMap α
  | .insert k a => (.none, t.insert k a)
  | .insertIfAbsent k a => if t.contains k then (.flag false, t) else (.flag true, t.insert k a)
  | .erase k => (.none, t.erase k)
  | .pop k => (.value t[k]?, t.erase k)
  | .eraseIf k p => if t[k]?.any p then (.flag true, t.erase k) else (.flag false, t)
  | .upsert k a merge => (.stored (merge t[k]? a), t.insert k (merge t[k]? a))
  | .contains k => (.flag (t.contains k), t)
  | .hasAny ks => (.flag (ks.any t.contains), t)
  | .hasAll ks => (.flag (ks.all t.contains), t)
  | .get k => (.value t[k]?, t)
  | .getMany ks => (.pairs (ks.foldl (ShardMap.collect (t[·]?)) ∅), t)
  | .insertAll pairs => (.none, pairs.foldl (fun t p => t.insert p.1 p.2) t)
  | .eraseAll ks => (.none, ks.foldl (fun t k => t.erase k) t)
  | .clear => (.none, ∅)

/-- The map after a list of calls. -/
def run (t : PlainMap α) (rs : List (MapRequest α)) : PlainMap α :=
  rs.foldl (fun t r => (step t r).2) t

/-- The answers to a list of calls. -/
def answers (t : PlainMap α) : List (MapRequest α) → List (MapAnswer α)
  | [] => []
  | r :: rs => (step t r).1 :: answers (step t r).2 rs

end PlainMap

namespace ShardMap

variable {α : Type}

/-- The sharded map holds what the plain map holds: each key in the shard that it belongs to and in
no other, and none missing, repeated or made up in any view. -/
structure Presents (m : ShardMap α) (t : PlainMap α) : Prop where
  /-- The snapshot of all pairs is the plain map. -/
  items_eq : m.items = t
  /-- A shard holds the keys that leave its index as remainder. -/
  getElem?_shard : ∀ (i : Nat) (k : Key), m.shards[i]?.bind (·[k]?) =
    if k.toNat % m.shardCount = i then t[k]? else none
  /-- The keys are counted once. -/
  size_eq : m.size = t.size
  /-- A map without keys is seen to be empty. -/
  isEmpty_eq : m.isEmpty = t.isEmpty
  /-- The keys are listed once, in the order of the shards. -/
  keys_perm : m.keys.Perm t.keys
  /-- The pairs are read once, in the order of the shards. -/
  buffered_perm : m.buffered.Perm t.toList

theorem presents_items (m : ShardMap α) : m.Presents m.items where
  items_eq := rfl
  getElem?_shard i k := by
    rw [getElem?_items]
    by_cases hi : i < m.shards.size
    · rw [Array.getElem?_eq_getElem hi]
      exact getElem?_shard_eq hi k
    · have hne : k.toNat % m.shardCount ≠ i := fun he => hi (he ▸ Nat.mod_lt _ m.shards_pos)
      rw [Array.getElem?_eq_none (Nat.le_of_not_lt hi), if_neg hne]
      rfl
  size_eq := size_eq_size_items
  isEmpty_eq := isEmpty_eq_isEmpty_items
  keys_perm := perm_keys
  buffered_perm := by
    rw [buffered_eq_toList]
    exact perm_toList

/-! ### One change -/

variable (m : ShardMap α)

theorem contains_items : m.items.contains = m.contains := by
  funext k
  rw [Std.ExtTreeMap.contains_eq_isSome_getElem?, getElem?_items, contains_eq_isSome]

theorem items_insert (k : Key) (a : α) : (m.insert k a).items = m.items.insert k a := by
  refine Std.ExtTreeMap.ext_getElem? fun k' => ?_
  rw [getElem?_items, get?_insert, Std.ExtTreeMap.getElem?_insert, getElem?_items]
  simp only [Std.compare_eq_iff_eq]

theorem items_erase (k : Key) : (m.erase k).items = m.items.erase k := by
  refine Std.ExtTreeMap.ext_getElem? fun k' => ?_
  rw [getElem?_items, get?_erase, Std.ExtTreeMap.getElem?_erase, getElem?_items]
  simp only [Std.compare_eq_iff_eq]

theorem items_empty (n : Nat) (hn : 0 < n) : (empty n hn : ShardMap α).items = ∅ := by
  refine Std.ExtTreeMap.ext_getElem? fun k => ?_
  rw [getElem?_items, get?_empty, Std.ExtTreeMap.getElem?_empty]

/-! ### Batches -/

theorem items_insertGroup (pairs : List (Key × α)) :
    (m.insertGroup pairs).items = pairs.foldl (fun t p => t.insert p.1 p.2) m.items := by
  induction pairs generalizing m with
  | nil => rfl
  | cons p pairs ih =>
    change ((m.insert p.1 p.2).insertGroup pairs).items = _
    rw [ih, items_insert, List.foldl_cons]

/-- A batch of pairs is stored as if there were no groups. -/
theorem insertAll_eq (pairs : List (Key × α)) : m.insertAll pairs = m.insertGroup pairs := by
  have hgroups : m.insertAll pairs =
      m.insertGroup ((m.groupPairs pairs).flatMap ShardGroup.items) := List.foldl_flatMap.symm
  rw [hgroups, insertGroup_groupPairs]

theorem items_insertAll (pairs : List (Key × α)) :
    (m.insertAll pairs).items = pairs.foldl (fun t p => t.insert p.1 p.2) m.items := by
  rw [insertAll_eq, items_insertGroup]

theorem items_eraseGroup (ks : List Key) :
    (m.eraseGroup ks).items = ks.foldl (fun t k => t.erase k) m.items := by
  induction ks generalizing m with
  | nil => rfl
  | cons k ks ih =>
    change ((m.erase k).eraseGroup ks).items = _
    rw [ih, items_erase, List.foldl_cons]

theorem items_eraseAll (ks : List Key) :
    (m.eraseAll ks).items = ks.foldl (fun t k => t.erase k) m.items := by
  rw [← items_eraseGroup]
  refine items_congr fun k => ?_
  rw [get?_eraseAll, get?_eraseGroup]

theorem getMany_eq (ks : List Key) : m.getMany ks = ks.foldl (collect (m.items[·]?)) ∅ := by
  refine Std.ExtTreeMap.ext_getElem? fun k => ?_
  rw [getElem?_getMany, getElem?_foldl_collect, getElem?_items, Std.ExtTreeMap.getElem?_empty,
    Option.or_none]

/-! ### Calls -/

/-- A call answers what it answers on the plain map, and leads to the same items. -/
theorem step_eq_plain (r : MapRequest α) :
    (m.step r).1 = (PlainMap.step m.items r).1 ∧
      (m.step r).2.items = (PlainMap.step m.items r).2 := by
  cases r with
  | insert k a => exact ⟨rfl, m.items_insert k a⟩
  | insertIfAbsent k a =>
    simp only [step, insertIfAbsent, PlainMap.step, contains_items]
    split
    · exact ⟨rfl, rfl⟩
    · exact ⟨rfl, m.items_insert k a⟩
  | erase k => exact ⟨rfl, m.items_erase k⟩
  | pop k =>
    refine ⟨?_, m.items_erase k⟩
    simp only [step, pop, PlainMap.step, getElem?_items]
  | eraseIf k p =>
    simp only [step, eraseIf, PlainMap.step, getElem?_items]
    split
    · exact ⟨rfl, m.items_erase k⟩
    · exact ⟨rfl, rfl⟩
  | upsert k a merge =>
    have hmerged : merge m.items[k]? a = merge (m.get? k) a := by rw [getElem?_items]
    rw [PlainMap.step, hmerged]
    exact ⟨rfl, m.items_insert k _⟩
  | contains k =>
    refine ⟨?_, rfl⟩
    simp only [step, PlainMap.step, contains_items]
  | hasAny ks =>
    refine ⟨?_, rfl⟩
    simp only [step, PlainMap.step, hasAny_eq, contains_items]
  | hasAll ks =>
    refine ⟨?_, rfl⟩
    simp only [step, PlainMap.step, hasAll_eq, contains_items]
  | get k =>
    refine ⟨?_, rfl⟩
    simp only [step, PlainMap.step, getElem?_items]
  | getMany ks =>
    refine ⟨?_, rfl⟩
    simp only [step, PlainMap.step, getMany_eq]
  | insertAll pairs => exact ⟨rfl, m.items_insertAll pairs⟩
  | eraseAll ks => exact ⟨rfl, m.items_eraseAll ks⟩
  | clear => exact ⟨rfl, items_empty m.shardCount m.shards_pos⟩

theorem shardCount_step (r : MapRequest α) : (m.step r).2.shardCount = m.shardCount := by
  cases r with
  | insert k a => exact shardCount_insert k a
  | insertIfAbsent k a =>
    change (if m.contains k then (false, m) else (true, m.insert k a)).2.shardCount = _
    split
    · rfl
    · exact shardCount_insert k a
  | erase k | pop k => exact shardCount_erase k
  | eraseIf k p =>
    change (if (m.get? k).any p then (true, m.erase k) else (false, m)).2.shardCount = _
    split
    · exact shardCount_erase k
    · rfl
  | upsert k a merge => exact shardCount_insert k _
  | contains k | hasAny ks | hasAll ks | get k | getMany ks => rfl
  | insertAll pairs =>
    change (m.insertAll pairs).shardCount = _
    rw [insertAll_eq, shardCount_insertGroup]
  | eraseAll ks => exact shardCount_eraseAll m ks
  | clear => exact Array.size_replicate

/-! ### Runs -/

theorem answers_eq_plain (rs : List (MapRequest α)) :
    m.answers rs = PlainMap.answers m.items rs := by
  induction rs generalizing m with
  | nil => rfl
  | cons r rs ih =>
    obtain ⟨hanswer, hitems⟩ := m.step_eq_plain r
    rw [answers, PlainMap.answers, ih, hanswer, hitems]

theorem items_run (rs : List (MapRequest α)) : (m.run rs).items = PlainMap.run m.items rs := by
  induction rs generalizing m with
  | nil => rfl
  | cons r rs ih =>
    change ((m.step r).2.run rs).items = PlainMap.run (PlainMap.step m.items r).2 rs
    rw [ih, (m.step_eq_plain r).2]

theorem shardCount_run (rs : List (MapRequest α)) : (m.run rs).shardCount = m.shardCount := by
  induction rs generalizing m with
  | nil => rfl
  | cons r rs ih =>
    change ((m.step r).2.run rs).shardCount = _
    rw [ih, shardCount_step]

theorem make_succ (n : Nat) :
    make (n + 1) = .ok (empty (n + 1) n.succ_pos : ShardMap α) := dif_pos n.succ_pos

/-- Sharding is invisible. A map can be made with any number of shards but zero, and then has no
keys. From there, or from any other sharded map, each of a list of calls answers what it answers on
the plain map of the items, and at the end the sharded map presents the plain one. -/
theorem run_eq_plain :
    (∀ n, ∃ m : ShardMap α, make (n + 1) = .ok m ∧ m.shardCount = n + 1 ∧ m.items = ∅) ∧
    ∀ (m : ShardMap α) (rs : List (MapRequest α)),
      m.answers rs = PlainMap.answers m.items rs ∧
      (m.run rs).Presents (PlainMap.run m.items rs) ∧
      (m.run rs).shardCount = m.shardCount := by
  refine ⟨fun n => ⟨_, make_succ n, Array.size_replicate, items_empty ..⟩, fun m rs => ?_⟩
  refine ⟨m.answers_eq_plain rs, ?_, m.shardCount_run rs⟩
  rw [← items_run]
  exact presents_items _

end ShardMap

end ClaimGrid
