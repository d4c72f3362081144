import Mathlib.Data.List.Nodup
import ClaimGrid.Shard.Map

/-!
# How many keys a sharded map has

Counting shard by shard counts every key once, because no key is stored in two shards.

## Main results

* `ShardMap.mem_keys`: the listed keys are those with a value.
* `ShardMap.nodup_keys`: no key is listed twice.
* `ShardMap.size_eq_length_keys`: the size is the number of listed keys.
-/

namespace ClaimGrid.ShardMap

variable {α : Type} {m : ShardMap α}

theorem mem_keys {k : Key} : k ∈ m.keys ↔ (m.get? k).isSome = true := by
  rw [keys, List.mem_flatMap]
  constructor
  · rintro ⟨s, hs, hk⟩
    obtain ⟨i, hi, rfl⟩ := Array.mem_iff_getElem.1 (Array.mem_toList_iff.1 hs)
    have hmem : k ∈ m.shards[i] := Std.ExtTreeMap.mem_keys.1 hk
    have hindex : shardIndex m.shardCount k = i := m.routed i hi k hmem
    rw [Std.ExtTreeMap.mem_iff_isSome_getElem?, getElem?_shard_eq hi, if_pos hindex] at hmem
    exact hmem
  · intro h
    have hlt := shardIndex_lt m.shards_pos k
    refine ⟨m.shardOf k, Array.mem_toList_iff.2 (Array.getElem_mem hlt), ?_⟩
    rw [Std.ExtTreeMap.mem_keys, Std.ExtTreeMap.mem_iff_isSome_getElem?]
    exact h

theorem nodup_keys : m.keys.Nodup := by
  rw [keys, List.nodup_flatMap]
  refine ⟨fun s _ => Std.ExtTreeMap.nodup_keys, List.pairwise_iff_getElem.2 ?_⟩
  intro i j hi hj hij k hki hkj
  rw [Array.length_toList] at hi hj
  rw [Array.getElem_toList, Std.ExtTreeMap.mem_keys] at hki hkj
  have hindex : i = j := (m.routed i hi k hki).symm.trans (m.routed j hj k hkj)
  exact Nat.ne_of_lt hij hindex

private theorem foldl_add_size (ss : List (Shard α)) (n : Nat) :
    ss.foldl (fun n s => n + s.size) n = n + (ss.flatMap Std.ExtTreeMap.keys).length := by
  induction ss generalizing n with
  | nil => rfl
  | cons s ss ih =>
    rw [List.foldl_cons, ih, List.flatMap_cons, List.length_append, Std.ExtTreeMap.length_keys,
      Nat.add_assoc]

theorem size_eq_length_keys : m.size = m.keys.length := by
  rw [size, ← Array.foldl_toList, foldl_add_size, Nat.zero_add]
  rfl

end ClaimGrid.ShardMap
