import ClaimGrid.Shard.Map

/-!
# Batches on a sharded map

A batch is grouped by shard and then worked off group by group, so that every shard is visited at
most once. Reports list keys in that order: by shard, and within a shard as the batch lists them.

## Main definitions

* `ShardMap.hasAny`, `ShardMap.hasAll`, `ShardMap.getMany`: lookups.
* `ShardMap.insertAll`, `ShardMap.eraseAll`: changes without conditions.
* `ShardMap.claimFree`: stores the pairs whose keys are free, and reports those keys.
* `ShardMap.claimAll`: stores all pairs or none. A shard is claimed as a whole if all its keys are
  free; the first shard where one is not ends the claim, and what earlier shards took is given back.
* `ShardMap.eraseAllIf`: removes the keys whose values satisfy a test, and reports those keys.
-/

namespace ClaimGrid.ShardMap

variable {α : Type}

/-- The groups of a batch of keys. -/
def groupKeys (m : ShardMap α) (ks : List Key) : List (ShardGroup Key) :=
  groupByShard m.shardCount id ks

/-- The groups of a batch of pairs. -/
def groupPairs (m : ShardMap α) (pairs : List (Key × α)) : List (ShardGroup (Key × α)) :=
  groupByShard m.shardCount Prod.fst pairs

/-- Whether at least one of the keys is stored. -/
def hasAny (m : ShardMap α) (ks : List Key) : Bool :=
  (m.groupKeys ks).any fun g => g.items.any m.contains

/-- Whether every one of the keys is stored. -/
def hasAll (m : ShardMap α) (ks : List Key) : Bool :=
  (m.groupKeys ks).all fun g => g.items.all m.contains

/-- The stored pairs among the keys. -/
def getMany (m : ShardMap α) (ks : List Key) : Std.ExtTreeMap Key α :=
  (m.groupKeys ks).foldl (fun acc g => g.items.foldl (fun acc k =>
    match m.get? k with
    | some a => acc.insert k a
    | none => acc) acc) ∅

/-- The map with the pairs of one shard stored. -/
def insertGroup (m : ShardMap α) (pairs : List (Key × α)) : ShardMap α :=
  pairs.foldl (fun m (k, a) => m.insert k a) m

/-- The map with every pair stored; of several pairs for a key the last one counts. -/
def insertAll (m : ShardMap α) (pairs : List (Key × α)) : ShardMap α :=
  (m.groupPairs pairs).foldl (fun m g => m.insertGroup g.items) m

/-- The map without the keys of one shard. -/
def eraseGroup (m : ShardMap α) (ks : List Key) : ShardMap α :=
  ks.foldl erase m

/-- The map without any of the keys. -/
def eraseAll (m : ShardMap α) (ks : List Key) : ShardMap α :=
  (m.groupKeys ks).foldl (fun m g => m.eraseGroup g.items) m

/-- Stores one pair if its key is free, and then puts the key in front of the report. -/
def claimFreeStep (state : List Key × ShardMap α) (pair : Key × α) : List Key × ShardMap α :=
  if state.2.contains pair.1 then state
  else (pair.1 :: state.1, state.2.insert pair.1 pair.2)

/-- Stores each pair whose key is free when its turn comes; reports those keys. -/
def claimFree (m : ShardMap α) (pairs : List (Key × α)) : List Key × ShardMap α :=
  let state := (m.groupPairs pairs).foldl (fun state g => g.items.foldl claimFreeStep state) ([], m)
  (state.1.reverse, state.2)

/-- Claims the groups one by one; `taken` lists the keys stored for earlier groups, which are given
back at the first group that finds one of its keys stored. -/
def claimGroups (taken : List Key) :
    List (ShardGroup (Key × α)) → ShardMap α → Bool × ShardMap α
  | [], m => (true, m)
  | g :: gs, m =>
    if g.items.any (fun pair => m.contains pair.1) then (false, m.eraseAll taken)
    else claimGroups (g.items.map Prod.fst ++ taken) gs (m.insertGroup g.items)

/-- Stores every pair if none of the keys is stored, and nothing otherwise; answers whether it
did. Of several pairs for a key the last one counts. -/
def claimAll (m : ShardMap α) (pairs : List (Key × α)) : Bool × ShardMap α :=
  claimGroups [] (m.groupPairs pairs) m

/-- Removes one key if its value satisfies a test, and then puts it in front of the report. -/
def eraseIfStep (p : α → Bool) (state : List Key × ShardMap α) (k : Key) :
    List Key × ShardMap α :=
  if (state.2.get? k).any p then (k :: state.1, state.2.erase k) else state

/-- Removes each key whose value satisfies a test when its turn comes; reports those keys. -/
def eraseAllIf (m : ShardMap α) (ks : List Key) (p : α → Bool) : List Key × ShardMap α :=
  let state := (m.groupKeys ks).foldl (fun state g => g.items.foldl (eraseIfStep p) state) ([], m)
  (state.1.reverse, state.2)

end ClaimGrid.ShardMap
