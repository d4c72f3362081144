import ClaimGrid.Proofs.Shard.Batch
import ClaimGrid.Proofs.Shard.Count

/-!
# Snapshots of a sharded map

A snapshot reads the shards one after the other. Since no key is stored in two shards, the pairs
read make one plain map, and each view of the sharded map is that view of the plain one, up to the
order in which the shards are read.

## Main results

* `ShardMap.getElem?_items`: the plain map has the value that the sharded map has.
* `ShardMap.size_eq_size_items`, `ShardMap.isEmpty_eq_isEmpty_items`: the counts are the same.
* `ShardMap.perm_keys`, `ShardMap.perm_toList`: so are the keys and the pairs.
* `ShardMap.mergeSort_keys`: the keys in their order.
* `ShardMap.buffered_eq_toList`: the queue that the shards are emptied into loses nothing.
-/

namespace ClaimGrid.ShardMap

variable {α : Type} {m : ShardMap α}

/-! ### The pairs as one plain map -/

theorem mem_toList {k : Key} {a : α} : (k, a) ∈ m.toList ↔ m.get? k = some a := by
  rw [toList, List.mem_flatMap]
  constructor
  · rintro ⟨s, hs, hk⟩
    obtain ⟨i, hi, rfl⟩ := Array.mem_iff_getElem.1 (Array.mem_toList_iff.1 hs)
    rw [Std.ExtTreeMap.mem_toList_iff_getElem?_eq_some, getElem?_shard_eq hi] at hk
    split at hk
    · exact hk
    · exact absurd hk nofun
  · intro hk
    have hlt := shardIndex_lt m.shards_pos k
    refine ⟨m.shardOf k, Array.mem_toList_iff.2 (Array.getElem_mem hlt), ?_⟩
    exact Std.ExtTreeMap.mem_toList_iff_getElem?_eq_some.2 hk

theorem map_fst_toList : m.toList.map Prod.fst = m.keys := by
  rw [toList, keys, List.map_flatMap]
  congr 1
  funext s
  exact Std.ExtTreeMap.map_fst_toList_eq_keys

theorem getElem?_foldl_insert (pairs : List (Key × α)) (found : Std.ExtTreeMap Key α) (k : Key) :
    (pairs.foldl (fun found p => found.insert p.1 p.2) found)[k]? =
      (pairs.reverse.lookup k).or found[k]? := by
  induction pairs generalizing found with
  | nil => rfl
  | cons p pairs ih =>
    rw [List.foldl_cons, ih, List.reverse_cons, List.lookup_append, Option.or_assoc]
    congr 1
    rw [Std.ExtTreeMap.getElem?_insert, lookup_cons_eq_ite, List.lookup_nil]
    by_cases hk : p.1 = k <;> simp [hk]

/-- In whatever order the pairs are read, a key is found with its value. -/
private theorem lookup_reverse_toList (k : Key) : m.toList.reverse.lookup k = m.get? k := by
  cases hlook : m.toList.reverse.lookup k with
  | some a =>
    obtain ⟨before, after, hsplit, -⟩ := List.lookup_eq_some_iff.1 hlook
    have hmem : (k, a) ∈ m.toList.reverse := by
      rw [hsplit]
      exact List.mem_append_right _ List.mem_cons_self
    exact (mem_toList.1 (List.mem_reverse.1 hmem)).symm
  | none =>
    cases hget : m.get? k with
    | none => rfl
    | some a =>
      have hmem := List.mem_reverse.2 (mem_toList.2 hget)
      have hne := List.lookup_eq_none_iff.1 hlook (k, a) hmem
      exact absurd rfl (bne_iff_ne.1 hne)

theorem getElem?_items (k : Key) : m.items[k]? = m.get? k := by
  have hfold := getElem?_foldl_insert m.toList ∅ k
  rw [lookup_reverse_toList, Std.ExtTreeMap.getElem?_empty, Option.or_none] at hfold
  exact hfold

/-- Maps with the same values have the same items, whatever the number of shards. -/
theorem items_congr {m m' : ShardMap α} (h : ∀ k, m.get? k = m'.get? k) : m.items = m'.items := by
  refine Std.ExtTreeMap.ext_getElem? fun k => ?_
  rw [getElem?_items, getElem?_items, h]

/-! ### The views -/

theorem perm_keys : m.keys.Perm m.items.keys := by
  refine (List.perm_ext_iff_of_nodup nodup_keys Std.ExtTreeMap.nodup_keys).2 fun k => ?_
  rw [mem_keys, Std.ExtTreeMap.mem_keys, Std.ExtTreeMap.mem_iff_isSome_getElem?, getElem?_items]

/-- The keys in their order, as they come out of a sort of the keys of all shards. -/
theorem mergeSort_keys (m : ShardMap α) : m.keys.mergeSort = m.items.keys := by
  have hsorted : m.items.keys.Pairwise (· ≤ ·) :=
    Std.ExtTreeMap.ordered_keys.imp fun hlt => UInt16.le_of_lt (Std.compare_eq_lt.1 hlt)
  have hmerged : m.keys.mergeSort.Pairwise (· ≤ ·) := by
    have htrans (i j k : Key) (hij : decide (i ≤ j) = true) (hjk : decide (j ≤ k) = true) :
        decide (i ≤ k) = true :=
      decide_eq_true (UInt16.le_trans (of_decide_eq_true hij) (of_decide_eq_true hjk))
    have htotal (i j : Key) : (decide (i ≤ j) || decide (j ≤ i)) = true := by
      simpa using UInt16.le_total i j
    exact (List.pairwise_mergeSort htrans htotal m.keys).imp of_decide_eq_true
  have hperm := (List.mergeSort_perm m.keys fun k k' => decide (k ≤ k')).trans perm_keys
  exact hperm.eq_of_pairwise (fun _ _ _ _ => UInt16.le_antisymm) hmerged hsorted

theorem perm_toList : m.toList.Perm m.items.toList := by
  have hnodup : m.toList.Nodup := by
    refine List.Nodup.of_map Prod.fst ?_
    rw [map_fst_toList]
    exact nodup_keys
  have hnodup' : m.items.toList.Nodup := by
    refine List.Nodup.of_map Prod.fst ?_
    rw [Std.ExtTreeMap.map_fst_toList_eq_keys]
    exact Std.ExtTreeMap.nodup_keys
  refine (List.perm_ext_iff_of_nodup hnodup hnodup').2 fun ⟨k, a⟩ => ?_
  rw [mem_toList, Std.ExtTreeMap.mem_toList_iff_getElem?_eq_some, getElem?_items]

theorem size_eq_size_items : m.size = m.items.size := by
  rw [size_eq_length_keys, perm_keys.length_eq, Std.ExtTreeMap.length_keys]

theorem isEmpty_eq_isEmpty_items : m.isEmpty = m.items.isEmpty := by
  have hlist : m.isEmpty = m.toList.isEmpty := by
    rw [isEmpty, toList, ← Array.all_toList, Bool.eq_iff_iff, List.isEmpty_iff,
      List.flatMap_eq_nil_iff, List.all_eq_true]
    simp only [← Std.ExtTreeMap.isEmpty_toList, List.isEmpty_iff]
  rw [hlist, perm_toList.isEmpty_eq, Std.ExtTreeMap.isEmpty_toList]

/-! ### Reading through a queue -/

theorem toList_foldl_offer {ε : Type} {capacity : Nat} (items : List ε) (queue : Array ε)
    (hroom : queue.size + items.length ≤ capacity) :
    (items.foldl (offer capacity) queue).toList = queue.toList ++ items := by
  induction items generalizing queue with
  | nil => simp
  | cons x items ih =>
    rw [List.length_cons] at hroom
    have hfits : queue.size < capacity := by omega
    rw [List.foldl_cons, offer, if_pos hfits, ih]
    · simp
    · rw [Array.size_push]
      omega

/-- The queue has room for the pairs of all shards. -/
theorem buffered_eq_toList (m : ShardMap α) : m.buffered = m.toList := by
  have hflat : m.queues.flatten = m.toList := List.flatMap_def.symm
  have htotal (queues : List (List (Key × α))) (n : Nat) :
      queues.foldl (fun n queue => n + queue.length) n = n + queues.flatten.length := by
    induction queues generalizing n with
    | nil => rfl
    | cons queue queues ih =>
      rw [List.foldl_cons, ih, List.flatten_cons, List.length_append, Nat.add_assoc]
  rw [buffered, htotal, Nat.zero_add, hflat]
  refine (toList_foldl_offer m.toList #[] ?_).trans (List.nil_append _)
  rw [Array.size_empty, Nat.zero_add]
  exact Nat.le_max_left ..

end ClaimGrid.ShardMap
