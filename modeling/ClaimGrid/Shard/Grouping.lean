/-!
# Grouping by shard

Items that carry a 16-bit key are routed to the shard whose index is the key modulo the number of
shards. A batch is grouped once: the groups come in shard order, and the items of a group keep
their order in the batch.

## Main definitions

* `Key`: the keys of a sharded map.
* `shardIndex`: the shard a key belongs to.
* `ShardGroup`: a shard index with the items routed to it.
* `groupByShard`: the groups of a batch, those without items left out.

## Main results

* `getElem?_buckets`: the bucket of a shard holds exactly the items routed to it, in order.
* `groupByShard_eq`: the groups, described by filtering the batch once for each shard.
-/

namespace ClaimGrid

/-- The keys of a sharded map. -/
abbrev Key := UInt16

/-- The shard, of `n`, that a key belongs to. -/
def shardIndex (n : Nat) (k : Key) : Nat := k.toNat % n

theorem shardIndex_lt {n : Nat} (hn : 0 < n) (k : Key) : shardIndex n k < n := Nat.mod_lt _ hn

/-- The items of a batch that belong to one shard. -/
structure ShardGroup (ι : Type) where
  /-- The shard. -/
  index : Nat
  /-- Its items, in the order of the batch. -/
  items : List ι

variable {ι : Type} (n : Nat) (keyOf : ι → Key)

/-- The items of a batch, distributed over one bucket for each shard. -/
def buckets (batch : List ι) : Array (Array ι) :=
  batch.foldl (fun bs item => bs.modify (shardIndex n (keyOf item)) (·.push item))
    (Array.replicate n #[])

/-- The groups of a batch in shard order, those without items left out. -/
def groupByShard (batch : List ι) : List (ShardGroup ι) :=
  (buckets n keyOf batch).toList.zipIdx.filterMap fun (bucket, index) =>
    if bucket.isEmpty then none else some ⟨index, bucket.toList⟩

/-- The items of a batch that belong to the shard `i`. -/
def routedTo (i : Nat) (batch : List ι) : List ι :=
  batch.filter fun item => shardIndex n (keyOf item) = i

private theorem getElem?_foldl_modify (batch : List ι) (bs : Array (Array ι)) (i : Nat) :
    (batch.foldl (fun bs item => bs.modify (shardIndex n (keyOf item)) (·.push item)) bs)[i]? =
      bs[i]?.map (· ++ (routedTo n keyOf i batch).toArray) := by
  induction batch generalizing bs with
  | nil => simp [routedTo]
  | cons item batch ih =>
    rw [List.foldl_cons, ih, Array.getElem?_modify]
    by_cases h : shardIndex n (keyOf item) = i
    · simp [routedTo, h, Function.comp_def]
    · simp [routedTo, h]

theorem size_buckets (batch : List ι) : (buckets n keyOf batch).size = n := by
  have aux (bs : Array (Array ι)) :
      (batch.foldl (fun bs item => bs.modify (shardIndex n (keyOf item)) (·.push item)) bs).size =
        bs.size := by
    induction batch generalizing bs with
    | nil => rfl
    | cons item batch ih => rw [List.foldl_cons, ih, Array.size_modify]
  simp [buckets, aux]

theorem getElem?_buckets (batch : List ι) {i : Nat} (hi : i < n) :
    (buckets n keyOf batch)[i]? = some (routedTo n keyOf i batch).toArray := by
  rw [buckets, getElem?_foldl_modify]
  simp [hi]

theorem groupByShard_eq (batch : List ι) :
    groupByShard n keyOf batch = (List.range n).filterMap fun i =>
      if (routedTo n keyOf i batch).isEmpty then none
      else some ⟨i, routedTo n keyOf i batch⟩ := by
  have h : (buckets n keyOf batch).toList.zipIdx =
      (List.range n).map fun i => ((routedTo n keyOf i batch).toArray, i) := by
    apply List.ext_getElem?
    intro i
    by_cases hi : i < n
    · have := getElem?_buckets n keyOf batch hi
      simp [List.getElem?_zipIdx, hi, this]
    · simp [hi, size_buckets]
  rw [groupByShard, h, List.filterMap_map]
  congr 1
  funext i
  simp

end ClaimGrid
