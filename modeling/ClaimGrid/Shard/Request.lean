import ClaimGrid.Shard.Batch

/-!
# Requests to a sharded map

The calls whose answers depend on the keys alone, as one value, so that runs of a sharded map can be
described. Batches that report which keys they took or gave back are not among them: their reports
list keys by shard.

## Main definitions

* `MapRequest`: a call with its arguments.
* `MapAnswer`: what a call answers.
* `ShardMap.step`, `ShardMap.run`: the map after a call, and after a list of calls.
* `ShardMap.answers`: the answers to a list of calls.
-/

namespace ClaimGrid

/-- A call to a sharded map. -/
inductive MapRequest (α : Type) where
  | insert (k : Key) (a : α)
  | insertIfAbsent (k : Key) (a : α)
  | erase (k : Key)
  | pop (k : Key)
  | eraseIf (k : Key) (p : α → Bool)
  | upsert (k : Key) (a : α) (merge : Option α → α → α)
  | contains (k : Key)
  | hasAny (ks : List Key)
  | hasAll (ks : List Key)
  | get (k : Key)
  | getMany (ks : List Key)
  | insertAll (pairs : List (Key × α))
  | eraseAll (ks : List Key)
  | clear

/-- What a call to a sharded map answers. -/
inductive MapAnswer (α : Type) where
  | none
  | flag (b : Bool)
  | value (found : Option α)
  | stored (a : α)
  | pairs (found : Std.ExtTreeMap Key α)

namespace ShardMap

variable {α : Type}

/-- The answer to a call and the map after it. -/
def step (m : ShardMap α) : MapRequest α → MapAnswer α × ShardMap α
  | .insert k a => (.none, m.insert k a)
  | .insertIfAbsent k a => (.flag (m.insertIfAbsent k a).1, (m.insertIfAbsent k a).2)
  | .erase k => (.none, m.erase k)
  | .pop k => (.value (m.pop k).1, (m.pop k).2)
  | .eraseIf k p => (.flag (m.eraseIf k p).1, (m.eraseIf k p).2)
  | .upsert k a merge => (.stored (m.upsert k a merge).1, (m.upsert k a merge).2)
  | .contains k => (.flag (m.contains k), m)
  | .hasAny ks => (.flag (m.hasAny ks), m)
  | .hasAll ks => (.flag (m.hasAll ks), m)
  | .get k => (.value (m.get? k), m)
  | .getMany ks => (.pairs (m.getMany ks), m)
  | .insertAll pairs => (.none, m.insertAll pairs)
  | .eraseAll ks => (.none, m.eraseAll ks)
  | .clear => (.none, m.clear)

/-- The map after a list of calls. -/
def run (m : ShardMap α) (rs : List (MapRequest α)) : ShardMap α :=
  rs.foldl (fun m r => (m.step r).2) m

/-- The answers to a list of calls. -/
def answers (m : ShardMap α) : List (MapRequest α) → List (MapAnswer α)
  | [] => []
  | r :: rs => (m.step r).1 :: answers (m.step r).2 rs

end ShardMap

end ClaimGrid
