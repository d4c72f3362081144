import Mathlib.Data.List.Nodup
import ClaimGrid.Proofs.FirstMentions
import ClaimGrid.Proofs.Shard.Batch

/-!
# What batches report

A batch that stores what is free, or removes what satisfies a test, reports the keys of which it did
so. A key may be listed many times, and what is done at one mention decides what later ones find: a
free key is taken at its first mention, and a value that satisfies the test is removed there. So a
report lists keys at their first mentions only, shard by shard, and it lists exactly the keys whose
presence the batch changed.

## Main definitions

* `reportStep`: does what is due for one item, and reports its key.
* `ListedBefore`: the order of reports.

## Main results

* `report_foldl_reportStep`: a report lists the first mentions of the keys that are due.
* `pairwise_listedBefore`: the first mentions in the groups of a batch stand in the order of
  reports.
* `ShardMap.reports_exact`: the reports of both batches.
-/

namespace ClaimGrid

/-! ### Working off the items of a batch -/

section ReportStep

variable {ι σ : Type} {keyOf : ι → Key} {due : σ → Key → Bool} {change : σ → ι → σ}

/-- Makes a change for an item if it is due for the item's key, and then puts the key in front of
the report. -/
def reportStep (keyOf : ι → Key) (due : σ → Key → Bool) (change : σ → ι → σ)
    (state : List Key × σ) (x : ι) : List Key × σ :=
  if due state.2 (keyOf x) then (keyOf x :: state.1, change state.2 x) else state

variable (hdue : ∀ s x k, due s (keyOf x) = true →
  (due (change s x) k = true ↔ due s k = true ∧ k ≠ keyOf x))

include hdue

/-- After some items nothing is due any more for their keys, and as much as before for others. -/
theorem due_foldl_reportStep (items : List ι) (state : List Key × σ) (k : Key) :
    due (items.foldl (reportStep keyOf due change) state).2 k = true ↔
      due state.2 k = true ∧ k ∉ items.map keyOf := by
  induction items generalizing state with
  | nil => simp
  | cons x items ih =>
    rw [List.foldl_cons, ih, reportStep, List.map_cons, List.mem_cons, not_or, ← and_assoc]
    refine and_congr_left fun _ => ?_
    split
    · rename_i hx
      exact hdue _ _ _ hx
    · rename_i hx
      refine ⟨fun hk => ⟨hk, ?_⟩, And.left⟩
      rintro rfl
      exact hx hk

/-- The report lists, at their first mentions, the keys that something was due for. -/
theorem report_foldl_reportStep (items : List ι) (s : σ) :
    (items.foldl (reportStep keyOf due change) ([], s)).1.reverse =
      (items.map keyOf).eraseDups.filter (due s) := by
  induction items using List.reverseRecOn with
  | nil => rfl
  | append_singleton items x ih =>
    have hdue := due_foldl_reportStep hdue items ([], s) (keyOf x)
    rw [List.foldl_append, List.foldl_cons, List.foldl_nil, reportStep, List.map_append,
      List.map_cons, List.map_nil]
    by_cases hx : keyOf x ∈ items.map keyOf
    · rw [if_neg fun h => (hdue.1 h).2 hx, eraseDups_concat_of_mem hx, ih]
    · rw [eraseDups_concat_of_notMem hx, List.filter_append, ← ih]
      by_cases hs : due s (keyOf x) = true
      · rw [if_pos (hdue.2 ⟨hs, hx⟩), List.reverse_cons, List.filter_cons_of_pos hs,
          List.filter_nil]
      · rw [if_neg fun h => hs (hdue.1 h).1, List.filter_cons_of_neg hs, List.filter_nil,
          List.append_nil]

end ReportStep

/-! ### The order of reports -/

/-- A key stands before another one in the reports on a batch: its shard comes first or, in the same
shard, its first mention. -/
def ListedBefore (n : Nat) (ks : List Key) (k k' : Key) : Prop :=
  shardIndex n k < shardIndex n k' ∨
    shardIndex n k = shardIndex n k' ∧ ks.idxOf k < ks.idxOf k'

theorem ListedBefore.ne {n : Nat} {ks : List Key} {k k' : Key} (h : ListedBefore n ks k k') :
    k ≠ k' := by
  rintro rfl
  exact h.elim (Nat.lt_irrefl _) fun h => Nat.lt_irrefl _ h.2

section Order

variable {ι : Type} {n : Nat} {keyOf : ι → Key} {batch : List ι}

theorem map_routedTo (i : Nat) : (routedTo n keyOf i batch).map keyOf =
    (batch.map keyOf).filter fun k => shardIndex n k = i := by
  rw [routedTo, List.filter_map]
  rfl

/-- The first mentions in the groups, shard by shard. -/
theorem eraseDups_map_groupByShard :
    (((groupByShard n keyOf batch).flatMap ShardGroup.items).map keyOf).eraseDups =
      (List.range n).flatMap fun i =>
        (batch.map keyOf).eraseDups.filter fun k => shardIndex n k = i := by
  rw [flatMap_items_groupByShard, List.map_flatMap]
  simp only [map_routedTo]
  rw [eraseDups_flatMap]
  · simp only [eraseDups_filter]
  · refine List.nodup_range.imp fun {i j} hij k hj hi => hij ?_
    simp only [List.mem_filter, decide_eq_true_eq] at hi hj
    rw [← hi.2, ← hj.2]

/-- The first mentions in the groups of a batch stand in the order of reports. -/
theorem pairwise_listedBefore :
    (((groupByShard n keyOf batch).flatMap ShardGroup.items).map keyOf).eraseDups.Pairwise
      (ListedBefore n (batch.map keyOf)) := by
  rw [eraseDups_map_groupByShard]
  refine List.pairwise_flatMap.2 ⟨fun i _ => ?_, ?_⟩
  · refine ((pairwise_idxOf_eraseDups _).sublist List.filter_sublist).imp_of_mem
      fun {k k'} hk hk' hlt => .inr ⟨?_, hlt⟩
    simp only [List.mem_filter, decide_eq_true_eq] at hk hk'
    rw [hk.2, hk'.2]
  · refine List.pairwise_lt_range.imp fun {i j} hlt k hk k' hk' => .inl ?_
    simp only [List.mem_filter, decide_eq_true_eq] at hk hk'
    rwa [hk.2, hk'.2]

end Order

/-! ### The two reports -/

namespace ShardMap

variable {α : Type} (m : ShardMap α)

theorem claimFreeStep_eq : (claimFreeStep : List Key × ShardMap α → Key × α → _) =
    reportStep Prod.fst (fun m k => !m.contains k) fun m pair => m.insert pair.1 pair.2 := by
  funext state pair
  rw [claimFreeStep, reportStep]
  cases state.2.contains pair.1 <;> rfl

theorem eraseIfStep_eq (p : α → Bool) : (eraseIfStep p : List Key × ShardMap α → Key → _) =
    reportStep id (fun m k => (m.get? k).any p) erase := rfl

/-- What was free is reported. -/
theorem report_claimFree (pairs : List (Key × α)) : (m.claimFree pairs).1 =
    (((m.groupPairs pairs).flatMap ShardGroup.items).map Prod.fst).eraseDups.filter fun k =>
      !m.contains k := by
  rw [claimFree_eq, claimFreeStep_eq]
  refine report_foldl_reportStep (fun m pair k hfree => ?_) _ m
  simp only [contains_eq_isSome, get?_insert]
  by_cases hk : pair.1 = k
  · simp [hk]
  · simp [hk, Ne.symm hk]

/-- What satisfied the test is reported. -/
theorem report_eraseAllIf (ks : List Key) (p : α → Bool) : (m.eraseAllIf ks p).1 =
    (((m.groupKeys ks).flatMap ShardGroup.items).map id).eraseDups.filter fun k =>
      (m.get? k).any p := by
  rw [eraseAllIf_eq, eraseIfStep_eq]
  refine report_foldl_reportStep (fun m k' k hp => ?_) _ m
  simp only [get?_erase, id_eq]
  by_cases hk : k' = k
  · simp [hk]
  · simp [hk, Ne.symm hk]

theorem mem_eraseAllIf {ks : List Key} {p : α → Bool} {k : Key} :
    k ∈ (m.eraseAllIf ks p).1 ↔ k ∈ ks ∧ (m.get? k).any p = true := by
  rw [report_eraseAllIf, List.mem_filter, List.mem_eraseDups, List.map_id, mem_groupKeys]

/-- Reports are in order. -/
theorem pairwise_claimFree (pairs : List (Key × α)) :
    (m.claimFree pairs).1.Pairwise (ListedBefore m.shardCount (pairs.map Prod.fst)) := by
  rw [report_claimFree]
  exact pairwise_listedBefore.sublist List.filter_sublist

theorem pairwise_eraseAllIf (ks : List Key) (p : α → Bool) :
    (m.eraseAllIf ks p).1.Pairwise (ListedBefore m.shardCount ks) := by
  have hordered : (((m.groupKeys ks).flatMap ShardGroup.items).map id).eraseDups.Pairwise
      (ListedBefore m.shardCount (ks.map id)) := pairwise_listedBefore
  rw [List.map_id ks] at hordered
  rw [report_eraseAllIf]
  exact hordered.sublist List.filter_sublist

/-- A key that was free and is not any more is a reported one. -/
theorem mem_claimFree_iff_taken {pairs : List (Key × α)} {k : Key} :
    k ∈ (m.claimFree pairs).1 ↔ m.get? k = none ∧ (m.claimFree pairs).2.get? k ≠ none := by
  rw [mem_claimFree, get?_claimFree]
  refine and_congr_right fun hfree => ?_
  rw [hfree, Option.none_or, ne_eq, lookup_eq_none_iff_notMem, not_not]

/-- A reported key has the value of its first pair, and every other one is as before. -/
theorem get?_claimFree_of_report (pairs : List (Key × α)) (k : Key) :
    (m.claimFree pairs).2.get? k =
      if k ∈ (m.claimFree pairs).1 then pairs.lookup k else m.get? k := by
  rw [get?_claimFree]
  simp only [mem_claimFree]
  split
  · rename_i hk
    rw [hk.1, Option.none_or]
  · rename_i hk
    cases hget : m.get? k with
    | some a => rfl
    | none =>
      rw [Option.none_or]
      exact lookup_eq_none_iff_notMem.2 fun hlisted => hk ⟨hget, hlisted⟩

/-- A key that had a value and has none any more is a reported one. -/
theorem mem_eraseAllIf_iff_removed {ks : List Key} {p : α → Bool} {k : Key} :
    k ∈ (m.eraseAllIf ks p).1 ↔ m.get? k ≠ none ∧ (m.eraseAllIf ks p).2.get? k = none := by
  rw [mem_eraseAllIf, get?_eraseAllIf]
  cases hget : m.get? k with
  | none => simp
  | some a => simp

/-- A reported key has no value, and every other one is as before. -/
theorem get?_eraseAllIf_of_report (ks : List Key) (p : α → Bool) (k : Key) :
    (m.eraseAllIf ks p).2.get? k =
      if k ∈ (m.eraseAllIf ks p).1 then none else m.get? k := by
  rw [get?_eraseAllIf]
  simp only [mem_eraseAllIf]

/-- **Reports are exact.** Storing what is free reports the keys that were free and are not any
more; these are the listed keys that were free, each of them has the value of its first pair, and
all other keys are as before. Removing what
satisfies a test reports the keys that had a value and have none any more; these are the listed keys
whose value satisfied the test, and all other keys are as before. Both reports list a key once, by
shard and then by its first mention in the batch. -/
theorem reports_exact :
    (∀ pairs : List (Key × α),
      (∀ k, k ∈ (m.claimFree pairs).1 ↔
        m.get? k = none ∧ (m.claimFree pairs).2.get? k ≠ none) ∧
      (∀ k, k ∈ (m.claimFree pairs).1 ↔ m.get? k = none ∧ k ∈ pairs.map Prod.fst) ∧
      (m.claimFree pairs).1.Nodup ∧
      (m.claimFree pairs).1.Pairwise (ListedBefore m.shardCount (pairs.map Prod.fst)) ∧
      (∀ k, (m.claimFree pairs).2.get? k =
        if k ∈ (m.claimFree pairs).1 then pairs.lookup k else m.get? k) ∧
      (m.claimFree pairs).2.shardCount = m.shardCount) ∧
    ∀ (ks : List Key) (p : α → Bool),
      (∀ k, k ∈ (m.eraseAllIf ks p).1 ↔
        m.get? k ≠ none ∧ (m.eraseAllIf ks p).2.get? k = none) ∧
      (∀ k, k ∈ (m.eraseAllIf ks p).1 ↔ k ∈ ks ∧ ∃ a, m.get? k = some a ∧ p a = true) ∧
      (m.eraseAllIf ks p).1.Nodup ∧
      (m.eraseAllIf ks p).1.Pairwise (ListedBefore m.shardCount ks) ∧
      (∀ k, (m.eraseAllIf ks p).2.get? k =
        if k ∈ (m.eraseAllIf ks p).1 then none else m.get? k) ∧
      (m.eraseAllIf ks p).2.shardCount = m.shardCount := by
  constructor
  · intro pairs
    have hordered := m.pairwise_claimFree pairs
    exact ⟨fun k => m.mem_claimFree_iff_taken, fun k => mem_claimFree,
      hordered.imp ListedBefore.ne, hordered, m.get?_claimFree_of_report pairs,
      m.shardCount_claimFree pairs⟩
  · intro ks p
    have hordered := m.pairwise_eraseAllIf ks p
    refine ⟨fun k => m.mem_eraseAllIf_iff_removed, fun k => ?_, hordered.imp ListedBefore.ne,
      hordered, m.get?_eraseAllIf_of_report ks p, m.shardCount_eraseAllIf ks p⟩
    rw [mem_eraseAllIf, Option.any_eq_true]

end ShardMap

end ClaimGrid
