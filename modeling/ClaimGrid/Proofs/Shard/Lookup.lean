import ClaimGrid.Proofs.Shard.Batch

/-!
# What batches of lookups find

A batch of lookups asks for its keys shard by shard. Nothing changes between two shards, so the
answer is that of asking for the keys one by one.

## Main results

* `ShardMap.hasAny_eq`, `ShardMap.hasAll_eq`: some key is stored, every key is stored.
* `ShardMap.getElem?_getMany`: the listed keys with their values.
-/

namespace ClaimGrid.ShardMap

variable {α : Type} (m : ShardMap α) (ks : List Key)

theorem hasAny_eq : m.hasAny ks = ks.any m.contains := by
  have hgroups : m.hasAny ks = ((m.groupKeys ks).flatMap ShardGroup.items).any m.contains :=
    List.any_flatMap.symm
  rw [hgroups, Bool.eq_iff_iff]
  simp only [List.any_eq_true, mem_groupKeys]

theorem hasAll_eq : m.hasAll ks = ks.all m.contains := by
  have hgroups : m.hasAll ks = ((m.groupKeys ks).flatMap ShardGroup.items).all m.contains :=
    List.all_flatMap.symm
  rw [hgroups, Bool.eq_iff_iff]
  simp only [List.all_eq_true, mem_groupKeys]

/-- Adds to the pairs found so far the one of a key, if the key has a value. -/
def collect (look : Key → Option α) (found : Std.ExtTreeMap Key α) (k : Key) :
    Std.ExtTreeMap Key α :=
  match look k with
  | some a => found.insert k a
  | none => found

theorem getElem?_foldl_collect (look : Key → Option α) (ks : List Key)
    (found : Std.ExtTreeMap Key α) (k : Key) :
    (ks.foldl (collect look) found)[k]? =
      if k ∈ ks then (look k).or found[k]? else found[k]? := by
  induction ks generalizing found with
  | nil => simp
  | cons k' ks ih =>
    have hone : (collect look found k')[k]? =
        if k' = k then (look k).or found[k]? else found[k]? := by
      by_cases hk : k' = k
      · subst hk
        cases hlook : look k' <;> simp [collect, hlook]
      · cases hlook : look k' <;> simp [collect, hlook, hk, Std.ExtTreeMap.getElem?_insert]
    rw [List.foldl_cons, ih, hone]
    by_cases hk : k' = k
    · subst hk
      cases look k' <;> simp
    · simp [hk, Ne.symm hk]

theorem getElem?_getMany (k : Key) :
    (m.getMany ks)[k]? = if k ∈ ks then m.get? k else none := by
  have hgroups : m.getMany ks =
      ((m.groupKeys ks).flatMap ShardGroup.items).foldl (collect m.get?) ∅ :=
    List.foldl_flatMap.symm
  rw [hgroups, getElem?_foldl_collect]
  simp only [mem_groupKeys, Std.ExtTreeMap.getElem?_empty, Option.or_none]

end ClaimGrid.ShardMap
