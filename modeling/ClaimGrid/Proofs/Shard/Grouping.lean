import ClaimGrid.Shard.Grouping

/-!
# What the groups of a batch hold

Grouping a batch by shard loses nothing and repeats nothing: the groups, read one after the other,
hold the items of the batch, and the items of any one key stand in the order of the batch. Two
groups never share a key, since each belongs to a shard of its own.

## Main results

* `mem_groupByShard`: the groups are the non-empty parts of the batch that belong to one shard.
* `pairwise_index_groupByShard`: groups stand in the order of their shards.
* `filter_flatMap_groupByShard`: the items of one key, in the order of the batch.
-/

namespace ClaimGrid

variable {ι : Type} {n : Nat} {keyOf : ι → Key} {batch : List ι}

theorem mem_routedTo {i : Nat} {x : ι} :
    x ∈ routedTo n keyOf i batch ↔ x ∈ batch ∧ shardIndex n (keyOf x) = i := by
  rw [routedTo, List.mem_filter, decide_eq_true_eq]

theorem mem_groupByShard {g : ShardGroup ι} :
    g ∈ groupByShard n keyOf batch ↔
      g.index < n ∧ g.items = routedTo n keyOf g.index batch ∧ g.items ≠ [] := by
  rw [groupByShard_eq, List.mem_filterMap]
  constructor
  · rintro ⟨i, hi, h⟩
    split at h
    · cases h
    · rename_i hne
      cases h
      exact ⟨List.mem_range.1 hi, rfl, fun he => hne (List.isEmpty_iff.2 he)⟩
  · rintro ⟨hi, hitems, hne⟩
    refine ⟨g.index, List.mem_range.2 hi, ?_⟩
    rw [← hitems, if_neg fun he => hne (List.isEmpty_iff.1 he)]

theorem shardIndex_of_mem_items {g : ShardGroup ι} (hg : g ∈ groupByShard n keyOf batch) {x : ι}
    (hx : x ∈ g.items) : shardIndex n (keyOf x) = g.index := by
  rw [(mem_groupByShard.1 hg).2.1] at hx
  exact (mem_routedTo.1 hx).2

theorem pairwise_index_groupByShard :
    (groupByShard n keyOf batch).Pairwise fun g g' => g.index < g'.index := by
  rw [groupByShard_eq, List.pairwise_filterMap]
  refine List.pairwise_lt_range.imp fun {i j} hij g hg g' hg' => ?_
  split at hg
  · cases hg
  · split at hg'
    · cases hg'
    · cases hg
      cases hg'
      exact hij

theorem flatMap_items_groupByShard :
    (groupByShard n keyOf batch).flatMap ShardGroup.items =
      (List.range n).flatMap fun i => routedTo n keyOf i batch := by
  rw [groupByShard_eq]
  induction List.range n with
  | nil => rfl
  | cons i is ih =>
    rw [List.filterMap_cons, List.flatMap_cons, ← ih]
    by_cases he : (routedTo n keyOf i batch).isEmpty
    · rw [if_pos he, List.isEmpty_iff.1 he, List.nil_append]
    · rw [if_neg he, List.flatMap_cons]

theorem mem_flatMap_groupByShard (hn : 0 < n) {x : ι} :
    x ∈ (groupByShard n keyOf batch).flatMap ShardGroup.items ↔ x ∈ batch := by
  rw [flatMap_items_groupByShard]
  simp only [List.mem_flatMap, List.mem_range, mem_routedTo]
  constructor
  · rintro ⟨i, -, hx, -⟩
    exact hx
  · intro hx
    exact ⟨_, shardIndex_lt hn (keyOf x), hx, rfl⟩

private theorem flatMap_range_ite {j : Nat} (hj : j < n) (l : List ι) :
    ((List.range n).flatMap fun i => if i = j then l else []) = l := by
  induction n with
  | zero => exact absurd hj (Nat.not_lt_zero j)
  | succ n ih =>
    rw [List.range_succ, List.flatMap_append, List.flatMap_singleton]
    rcases Nat.lt_succ_iff_lt_or_eq.1 hj with hlt | rfl
    · rw [ih hlt, if_neg (Nat.ne_of_gt hlt), List.append_nil]
    · rw [if_pos rfl, List.flatMap_eq_nil_iff.2, List.nil_append]
      intro i hi
      exact if_neg (Nat.ne_of_lt (List.mem_range.1 hi))

/-- The items of one key stand in the groups in the order of the batch. -/
theorem filter_flatMap_groupByShard (hn : 0 < n) (k : Key) :
    ((groupByShard n keyOf batch).flatMap ShardGroup.items).filter (keyOf · = k) =
      batch.filter (keyOf · = k) := by
  rw [flatMap_items_groupByShard, List.filter_flatMap]
  refine Eq.trans ?_ (flatMap_range_ite (shardIndex_lt hn k) (batch.filter (keyOf · = k)))
  congr 1
  funext i
  rw [routedTo, List.filter_filter]
  split
  · rename_i hi
    refine List.filter_congr fun x _ => ?_
    by_cases hx : keyOf x = k <;> simp [hx, hi]
  · rename_i hi
    refine List.filter_eq_nil_iff.2 fun x _ h => hi ?_
    simp only [Bool.and_eq_true, decide_eq_true_eq] at h
    rw [← h.2, h.1]

end ClaimGrid
