import ClaimGrid.Proofs.Shard.Batch

/-!
# Claims are all or nothing

A claim visits the shards one by one and stores the pairs of each as it goes. It may find a key
stored only after several shards took their pairs, and then it removes what they took. The removal
lists keys, not values, so it is exact only because every key that was taken had been free: this is
the invariant `ShardMap.GrownFrom` of the claim's recursion.

## Main definitions

* `ShardMap.GrownFrom`: a map that differs from another only in keys that were free there.

## Main results

* `ShardMap.claimAll_eq`: a claim stores all pairs if every key is free, and changes nothing
  otherwise.
* `ShardMap.claimAll_allOrNothing`: the same, with what is stored under each key.
-/

namespace ClaimGrid.ShardMap

variable {α : Type}

/-- `m` is `m₀` with values stored under some of the keys in `taken`, all of them free in `m₀`. -/
structure GrownFrom (m₀ : ShardMap α) (taken : List Key) (m : ShardMap α) : Prop where
  /-- No shard was added. -/
  shardCount_eq : m.shardCount = m₀.shardCount
  /-- The keys taken were free. -/
  free : ∀ k ∈ taken, m₀.get? k = none
  /-- All other keys are as they were. -/
  kept : ∀ k ∉ taken, m.get? k = m₀.get? k

namespace GrownFrom

variable {m₀ m : ShardMap α} {taken : List Key}

theorem refl (m : ShardMap α) : GrownFrom m [] m :=
  ⟨rfl, fun _ hk => absurd hk List.not_mem_nil, fun _ _ => rfl⟩

/-- A key that is free now was free from the start. -/
theorem get?_eq_none (h : GrownFrom m₀ taken m) {k : Key} (hk : m.get? k = none) :
    m₀.get? k = none := by
  by_cases htaken : k ∈ taken
  · exact h.free k htaken
  · rw [← h.kept k htaken, hk]

/-- Storing the pairs of a shard whose keys are all free keeps the invariant. -/
theorem insertGroup (h : GrownFrom m₀ taken m) {pairs : List (Key × α)}
    (hfree : ∀ p ∈ pairs, m.get? p.1 = none) :
    GrownFrom m₀ (pairs.map Prod.fst ++ taken) (m.insertGroup pairs) where
  shardCount_eq := by rw [shardCount_insertGroup, h.shardCount_eq]
  free k hk := by
    rcases List.mem_append.1 hk with hk | hk
    · obtain ⟨p, hp, rfl⟩ := List.mem_map.1 hk
      exact h.get?_eq_none (hfree p hp)
    · exact h.free k hk
  kept k hk := by
    rw [List.mem_append, not_or] at hk
    rw [get?_insertGroup_of_notMem hk.1, h.kept k hk.2]

/-- Removing the keys taken leads back to the start. -/
theorem eraseAll_eq (h : GrownFrom m₀ taken m) : m.eraseAll taken = m₀ := by
  refine ext_get? (by rw [shardCount_eraseAll, h.shardCount_eq]) fun k => ?_
  rw [get?_eraseAll]
  split
  · rename_i hk
    exact (h.free k hk).symm
  · rename_i hk
    exact h.kept k hk

end GrownFrom

/-! ### The recursion over the groups -/

/-- A claim that fails leads back to the start, however many groups were stored before. -/
theorem claimGroups_of_eq_false {m₀ : ShardMap α} (gs : List (ShardGroup (Key × α)))
    {taken : List Key} {m : ShardMap α} (h : GrownFrom m₀ taken m)
    (hfail : (claimGroups taken gs m).1 = false) : (claimGroups taken gs m).2 = m₀ := by
  induction gs generalizing taken m with
  | nil => exact absurd hfail (by simp [claimGroups])
  | cons g gs ih =>
    rw [claimGroups] at hfail ⊢
    split
    · exact h.eraseAll_eq
    · rename_i hany
      rw [if_neg hany] at hfail
      refine ih (h.insertGroup fun p hp => ?_) hfail
      simpa [contains_eq_isSome] using fun hsome => hany (List.any_eq_true.2 ⟨p, hp, hsome⟩)

/-- A claim that succeeds has stored the groups one after the other. -/
theorem claimGroups_of_eq_true (gs : List (ShardGroup (Key × α))) {taken : List Key}
    {m : ShardMap α} (hok : (claimGroups taken gs m).1 = true) :
    (claimGroups taken gs m).2 = m.insertGroup (gs.flatMap ShardGroup.items) := by
  induction gs generalizing taken m with
  | nil => rfl
  | cons g gs ih =>
    rw [claimGroups] at hok ⊢
    split
    · rename_i hany
      rw [if_pos hany] at hok
      exact absurd hok Bool.false_ne_true
    · rename_i hany
      rw [if_neg hany] at hok
      rw [ih hok, List.flatMap_cons, insertGroup_append]

/-- Groups without common keys are claimed exactly if all their keys are free: what is stored for
one group never stands in the way of another. -/
theorem claimGroups_eq_true_iff (gs : List (ShardGroup (Key × α)))
    (hgs : gs.Pairwise fun g g' => ∀ p ∈ g.items, ∀ p' ∈ g'.items, p.1 ≠ p'.1)
    (taken : List Key) (m : ShardMap α) :
    (claimGroups taken gs m).1 = true ↔
      ∀ p ∈ gs.flatMap ShardGroup.items, m.get? p.1 = none := by
  induction gs generalizing taken m with
  | nil => simp [claimGroups]
  | cons g gs ih =>
    rw [List.pairwise_cons] at hgs
    have hrest : ∀ p ∈ gs.flatMap ShardGroup.items,
        (m.insertGroup g.items).get? p.1 = m.get? p.1 := by
      intro p hp
      obtain ⟨g', hg', hp⟩ := List.mem_flatMap.1 hp
      refine get?_insertGroup_of_notMem (fun hk => ?_) m
      obtain ⟨p', hp', he⟩ := List.mem_map.1 hk
      exact hgs.1 g' hg' p' hp' p hp he
    rw [claimGroups, List.flatMap_cons]
    split
    · rename_i hany
      obtain ⟨p, hp, hsome⟩ := List.any_eq_true.1 hany
      rw [contains_eq_isSome] at hsome
      refine ⟨fun h => absurd h Bool.false_ne_true, fun h => ?_⟩
      rw [h p (List.mem_append_left _ hp)] at hsome
      exact absurd hsome Bool.false_ne_true
    · rename_i hany
      have hfree : ∀ p ∈ g.items, m.get? p.1 = none := by
        intro p hp
        simpa [contains_eq_isSome] using fun hsome => hany (List.any_eq_true.2 ⟨p, hp, hsome⟩)
      rw [ih hgs.2]
      constructor
      · intro h p hp
        rcases List.mem_append.1 hp with hp | hp
        · exact hfree p hp
        · rw [← hrest p hp]
          exact h p hp
      · intro h p hp
        rw [hrest p hp]
        exact h p (List.mem_append_right _ hp)

/-! ### Claims -/

variable (m : ShardMap α) (pairs : List (Key × α))

/-- Two groups belong to two shards, and so have no key in common. -/
theorem pairwise_groupPairs :
    (m.groupPairs pairs).Pairwise fun g g' => ∀ p ∈ g.items, ∀ p' ∈ g'.items, p.1 ≠ p'.1 := by
  refine pairwise_index_groupByShard.imp_of_mem fun {g g'} hg hg' hlt p hp p' hp' he => ?_
  have h := shardIndex_of_mem_items hg hp
  rw [he, shardIndex_of_mem_items hg' hp'] at h
  exact Nat.ne_of_gt hlt h

theorem insertGroup_groupPairs :
    m.insertGroup ((m.groupPairs pairs).flatMap ShardGroup.items) = m.insertGroup pairs := by
  refine ext_get? (by simp) fun k => ?_
  rw [get?_insertGroup, get?_insertGroup, lookup_reverse_groupPairs]

/-- A claim stores all pairs if every key is free, and otherwise leaves the map as it was. -/
theorem claimAll_eq : m.claimAll pairs =
    if ∀ p ∈ pairs, m.get? p.1 = none then (true, m.insertGroup pairs) else (false, m) := by
  have hiff : (m.claimAll pairs).1 = true ↔ ∀ p ∈ pairs, m.get? p.1 = none := by
    rw [claimAll, claimGroups_eq_true_iff _ (m.pairwise_groupPairs pairs)]
    simp only [mem_groupPairs]
  split
  · rename_i hfree
    have hok := hiff.2 hfree
    refine Prod.ext hok ((claimGroups_of_eq_true _ hok).trans ?_)
    exact m.insertGroup_groupPairs pairs
  · rename_i hfree
    have hfail := Bool.eq_false_iff.2 fun hok => hfree (hiff.1 hok)
    exact Prod.ext hfail (claimGroups_of_eq_false _ (.refl m) hfail)

/-- **A claim is all or nothing.** It succeeds exactly if none of the listed keys is stored. Then
every listed key holds the value of its last pair and all other keys are as before; otherwise the
map is the one before, whichever shard held the conflict. -/
theorem claimAll_allOrNothing :
    ((m.claimAll pairs).1 = true ↔ ∀ p ∈ pairs, m.get? p.1 = none) ∧
    ((m.claimAll pairs).1 = true →
      (m.claimAll pairs).2.shardCount = m.shardCount ∧
        ∀ k, (m.claimAll pairs).2.get? k = (pairs.reverse.lookup k).or (m.get? k)) ∧
    ((m.claimAll pairs).1 = false → (m.claimAll pairs).2 = m) := by
  rw [claimAll_eq]
  split
  · rename_i hfree
    refine ⟨⟨fun _ => hfree, fun _ => rfl⟩, fun _ => ⟨?_, fun k => ?_⟩, fun h => ?_⟩
    · exact shardCount_insertGroup pairs m
    · exact get?_insertGroup pairs m k
    · exact absurd h.symm Bool.false_ne_true
  · rename_i hfree
    refine ⟨⟨fun h => absurd h Bool.false_ne_true, fun h => absurd h hfree⟩, fun h => ?_,
      fun _ => rfl⟩
    exact absurd h Bool.false_ne_true

end ClaimGrid.ShardMap
