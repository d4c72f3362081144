import Std.Data.ExtTreeMap
import ClaimGrid.Fault
import ClaimGrid.Text.Outline
import ClaimGrid.Shard.Grouping

/-!
# Sharded maps

A sharded map is a finite map from 16-bit keys that is cut into shards. A key is stored in the
shard that `shardIndex` names, and nowhere else, so the shards together are one plain map.

## Main definitions

* `ShardMap`: the shards, with the proof that every key is where it belongs.
* `ShardMap.make`: an empty map with a given number of shards.
* `ShardMap.get?`: the value under a key; every other operation is described by it.
* `ShardMap.insert`, `ShardMap.erase`: the two changes every operation is made of.
* `ShardMap.toList`, `ShardMap.items`: the pairs shard by shard, and as one plain map.
* `ShardMap.buffered`: the pairs read from a queue that all shards were emptied into.

## Main results

* `ShardMap.get?_insert`, `ShardMap.get?_erase`: the two changes through `get?`.
* `ShardMap.ext_get?`: a sharded map is determined by its number of shards and its values.
-/

namespace ClaimGrid

/-- Why a sharded map could not be made: it would have had `count` shards, that is none. -/
structure ShardCountError where
  /-- The refused number of shards. -/
  count : Nat
  deriving DecidableEq

namespace ShardCountError

/-- The sentence for a refused number of shards. -/
def message (e : ShardCountError) : String :=
  "invalid shard count " ++ Decimal.numeral e.count ++ ": at least one shard is required"

/-- The number of shards is a setting. -/
def kind (_ : ShardCountError) : FaultKind := .configuration

/-- A refused number of shards as it is shown to a developer. -/
def outline (e : ShardCountError) : Outline := .tuple "InvalidShardCount" [.number e.count]

end ShardCountError

/-- One shard: a plain map. -/
abbrev Shard (α : Type) := Std.ExtTreeMap Key α

/-- A finite map cut into shards by key. -/
structure ShardMap (α : Type) where
  /-- The shards. -/
  shards : Array (Shard α)
  /-- There is a shard. -/
  shards_pos : 0 < shards.size
  /-- A key is stored only in the shard it belongs to. -/
  routed : ∀ (i : Nat) (h : i < shards.size) (k : Key),
    k ∈ shards[i] → shardIndex shards.size k = i

namespace ShardMap

variable {α : Type}

/-- The number of shards used when nothing else is asked for. -/
def defaultShardCount : Nat := 32

/-- The map without keys, cut into `n` shards. -/
def empty (n : Nat) (hn : 0 < n) : ShardMap α where
  shards := Array.replicate n ∅
  shards_pos := by simpa using hn
  routed i h k hk := by simp at hk

/-- The map without keys, refused if it would have no shard. -/
def make (n : Nat) : Except ShardCountError (ShardMap α) :=
  if h : 0 < n then .ok (empty n h) else .error ⟨n⟩

instance : Inhabited (ShardMap α) := ⟨empty defaultShardCount (by decide)⟩

variable (m : ShardMap α)

/-- The number of shards. -/
def shardCount : Nat := m.shards.size

/-- The shard a key belongs to. -/
def shardOf (k : Key) : Shard α :=
  have := shardIndex_lt m.shards_pos k
  m.shards[shardIndex m.shards.size k]

/-- The value stored under a key. -/
def get? (k : Key) : Option α := (m.shardOf k)[k]?

/-- Whether a key is stored. -/
def contains (k : Key) : Bool := (m.shardOf k).contains k

/-- The map after a change to the shard that `k` belongs to, a change that brings in no key but
`k`. -/
def modifyShard (k : Key) (f : Shard α → Shard α)
    (hf : ∀ s : Shard α, ∀ k' ∈ f s, k' = k ∨ k' ∈ s) : ShardMap α where
  shards := m.shards.modify (shardIndex m.shards.size k) f
  shards_pos := by simpa using m.shards_pos
  routed i h k' hk' := by
    rw [Array.size_modify] at h ⊢
    rw [Array.getElem_modify] at hk'
    split at hk'
    · rename_i hi
      rcases hf _ k' hk' with rfl | hk'
      · exact hi
      · exact m.routed i h k' hk'
    · exact m.routed i h k' hk'

/-- The map with a value stored under a key in place of what was there. -/
def insert (k : Key) (a : α) : ShardMap α :=
  m.modifyShard k (·.insert k a) fun s k' hk' => by
    rw [Std.ExtTreeMap.mem_insert] at hk'
    exact hk'.imp (fun h => (Std.compare_eq_iff_eq.1 h).symm) id

/-- The map without a key. -/
def erase (k : Key) : ShardMap α :=
  m.modifyShard k (·.erase k) fun s k' hk' => by
    rw [Std.ExtTreeMap.mem_erase] at hk'
    exact .inr hk'.2

/-- Stores a value under a free key; answers whether the key was free. -/
def insertIfAbsent (k : Key) (a : α) : Bool × ShardMap α :=
  if m.contains k then (false, m) else (true, m.insert k a)

/-- Takes the value out that is stored under a key. -/
def pop (k : Key) : Option α × ShardMap α := (m.get? k, m.erase k)

/-- Removes a key if the value under it satisfies a test; answers whether it did. -/
def eraseIf (k : Key) (p : α → Bool) : Bool × ShardMap α :=
  if (m.get? k).any p then (true, m.erase k) else (false, m)

/-- Stores what `merge` makes of the value present, if any, and the new one; answers it. -/
def upsert (k : Key) (a : α) (merge : Option α → α → α) : α × ShardMap α :=
  let merged := merge (m.get? k) a
  (merged, m.insert k merged)

/-- The number of keys, counted shard by shard. -/
def size : Nat := m.shards.foldl (fun n s => n + s.size) 0

/-- Whether every shard is without keys. -/
def isEmpty : Bool := m.shards.all Std.ExtTreeMap.isEmpty

/-- The map without keys, cut into as many shards. -/
def clear : ShardMap α := empty m.shardCount m.shards_pos

/-- The pairs, shard by shard and by key within a shard. -/
def toList : List (Key × α) := m.shards.toList.flatMap Std.ExtTreeMap.toList

/-- The keys, shard by shard and by key within a shard. -/
def keys : List Key := m.shards.toList.flatMap Std.ExtTreeMap.keys

/-- The pairs as one plain map. -/
def items : Std.ExtTreeMap Key α :=
  m.toList.foldl (fun acc (k, a) => acc.insert k a) ∅

/-- The pairs of each shard by key, one queue for each shard. -/
def queues : List (List (Key × α)) := m.shards.toList.map Std.ExtTreeMap.toList

/-- A queue after an item was offered to it; an item that finds `capacity` items there is lost. -/
def offer {ε : Type} (capacity : Nat) (queue : Array ε) (item : ε) : Array ε :=
  if queue.size < capacity then queue.push item else queue

/-- The pairs as they are read from one bounded queue, into which the shards' queues were emptied
before. -/
def buffered : List (Key × α) :=
  let total := m.queues.foldl (fun n queue => n + queue.length) 0
  (m.queues.flatten.foldl (offer (max total 1)) #[]).toList

/-- A sharded map as it is shown to a developer. -/
def outline : Outline :=
  .record "ShardedMap" [("shard_count", .number m.shardCount), ("count", .number m.size)]

/-! ### The two changes through `get?` -/

variable {m}

@[simp] theorem shardCount_modifyShard {k : Key} {f : Shard α → Shard α}
    {hf : ∀ s : Shard α, ∀ k' ∈ f s, k' = k ∨ k' ∈ s} :
    (m.modifyShard k f hf).shardCount = m.shardCount := Array.size_modify

theorem shardOf_modifyShard {k : Key} {f : Shard α → Shard α}
    {hf : ∀ s : Shard α, ∀ k' ∈ f s, k' = k ∨ k' ∈ s} (k' : Key) :
    (m.modifyShard k f hf).shardOf k' =
      if shardIndex m.shardCount k = shardIndex m.shardCount k' then f (m.shardOf k')
      else m.shardOf k' := by
  simp only [shardOf, modifyShard, Array.size_modify, Array.getElem_modify, shardCount]
  rfl

theorem contains_eq_isSome (k : Key) : m.contains k = (m.get? k).isSome := by
  rw [contains, get?, Std.ExtTreeMap.contains_eq_isSome_getElem?]

@[simp] theorem shardCount_insert (k : Key) (a : α) : (m.insert k a).shardCount = m.shardCount :=
  shardCount_modifyShard

@[simp] theorem shardCount_erase (k : Key) : (m.erase k).shardCount = m.shardCount :=
  shardCount_modifyShard

theorem get?_insert (k k' : Key) (a : α) :
    (m.insert k a).get? k' = if k = k' then some a else m.get? k' := by
  unfold get? insert
  rw [shardOf_modifyShard]
  by_cases hk : k = k'
  · subst hk
    simp
  · split <;> simp [Std.ExtTreeMap.getElem?_insert, hk]

theorem get?_erase (k k' : Key) :
    (m.erase k).get? k' = if k = k' then none else m.get? k' := by
  unfold get? erase
  rw [shardOf_modifyShard]
  by_cases hk : k = k'
  · subst hk
    simp
  · split <;> simp [Std.ExtTreeMap.getElem?_erase, hk]

@[simp] theorem get?_empty (n : Nat) (hn : 0 < n) (k : Key) :
    (empty n hn : ShardMap α).get? k = none := by
  simp [get?, shardOf, empty]

/-- A key that is found in some shard is found there through the whole map. -/
theorem getElem?_shard_eq {i : Nat} (hi : i < m.shards.size) (k : Key) :
    m.shards[i][k]? = if shardIndex m.shardCount k = i then m.get? k else none := by
  split
  · rename_i h
    subst h
    rfl
  · rename_i h
    exact Std.ExtTreeMap.getElem?_eq_none fun hk => h (m.routed i hi k hk)

theorem ext_get? {m m' : ShardMap α} (hcount : m.shardCount = m'.shardCount)
    (h : ∀ k, m.get? k = m'.get? k) : m = m' := by
  have hshards : m.shards = m'.shards := by
    apply Array.ext hcount
    intro i hi hi'
    apply Std.ExtTreeMap.ext_getElem?
    intro k
    rw [getElem?_shard_eq hi, getElem?_shard_eq hi', hcount, h]
  cases m
  cases m'
  cases hshards
  rfl

end ShardMap

end ClaimGrid
