import ClaimGrid.Proofs.Shard.Claim
import ClaimGrid.Proofs.Shard.Lookup

/-!
# Every shard is visited once

The groups of a batch are a stable partition of it: they stand in the order of their shards, each
holds the items of its shard in the order of the batch, and together they hold every item as often
as the batch does. So a batch can be worked off in one pass: the shards of its groups are opened one
after the other, and whatever the batch has to do with a shard is done while it is open.

A pass is described here on the bare shards. A visit sees the items of one group and the one open
shard, and the shards opened are recorded. Every batch on a sharded map comes to such a pass. A
claim that fails after some shards took their pairs ends its pass there, and what they took is given
back by a further batch, which again opens each shard once.

## Main definitions

* `pass`: opens the shards of groups, one after the other.
* `ShardMap.InOnePass`: an outcome that a pass over a batch's groups comes to.
* `ShardMap.visitAny`, `ShardMap.visitAll`, `ShardMap.visitGet`, `ShardMap.visitInsert`,
  `ShardMap.visitErase`, `ShardMap.visitClaimFree`, `ShardMap.visitEraseIf`, `ShardMap.visitClaim`:
  what the batches do at an open shard.

## Main results

* `perm_flatMap_groupByShard`: the groups hold every item as often as the batch.
* `pairwise_opened`: a pass opens shards in their order, each once.
* `ShardMap.inOnePass_of_visits`: what a batch does group by group comes to a pass.
* `groupByShard_stable`: the partition, and the passes of all batches.
-/

namespace ClaimGrid

/-! ### Groups -/

section Groups

variable {ι : Type} {n : Nat} {keyOf : ι → Key} {batch : List ι}

/-- The groups hold every item of the batch, as often as the batch does. -/
theorem perm_flatMap_groupByShard (hn : 0 < n) :
    ((groupByShard n keyOf batch).flatMap ShardGroup.items).Perm batch := by
  classical
  refine List.perm_iff_count.2 fun x => ?_
  have hfilter : ((groupByShard n keyOf batch).flatMap ShardGroup.items).filter
      (keyOf · = keyOf x) = batch.filter (keyOf · = keyOf x) :=
    filter_flatMap_groupByShard hn (keyOf x)
  have hkey := congrArg (List.count x) hfilter
  rwa [List.count_filter (by simp), List.count_filter (by simp)] at hkey

end Groups

/-! ### Passes -/

/-- What a visit to an open shard comes to. -/
structure Visit (α σ : Type) where
  /-- What is known after the visit. -/
  state : σ
  /-- The shard when it is closed again. -/
  shard : Shard α
  /-- Whether further shards are visited. -/
  goesOn : Bool

/-- What a pass over the shards comes to. -/
structure Pass (α σ : Type) where
  /-- The shards that were opened, in order. -/
  opened : List Nat
  /-- What is known at the end. -/
  state : σ
  /-- The shards at the end. -/
  shards : Array (Shard α)

variable {α ι σ : Type}

/-- Opens the shards of groups one after the other, each for all items of its group, until a visit
is the last one. A visit knows the items, the open shard and what was known before. -/
def pass (visit : σ → List ι → Shard α → Visit α σ) :
    List (ShardGroup ι) → σ → Array (Shard α) → Pass α σ
  | [], state, shards => ⟨[], state, shards⟩
  | g :: gs, state, shards =>
    let v := visit state g.items (shards.getD g.index ∅)
    let shards := shards.setIfInBounds g.index v.shard
    if v.goesOn then
      let rest := pass visit gs v.state shards
      ⟨g.index :: rest.opened, rest.state, rest.shards⟩
    else ⟨[g.index], v.state, shards⟩

section Opened

variable (visit : σ → List ι → Shard α → Visit α σ) (state : σ) (shards : Array (Shard α))

/-- A pass opens shards in the order of the groups and skips none. -/
theorem opened_isPrefixOf_groups (gs : List (ShardGroup ι)) :
    (pass visit gs state shards).opened <+: gs.map ShardGroup.index := by
  induction gs generalizing state shards with
  | nil => exact List.prefix_refl _
  | cons g gs ih =>
    rw [pass, List.map_cons]
    dsimp only
    split
    · exact List.cons_prefix_cons.2 ⟨rfl, ih ..⟩
    · exact List.cons_prefix_cons.2 ⟨rfl, List.nil_prefix⟩

/-- Over the groups of a batch, a pass opens shards in their order, each once. -/
theorem pairwise_opened (n : Nat) (keyOf : ι → Key) (batch : List ι) :
    (pass visit (groupByShard n keyOf batch) state shards).opened.Pairwise (· < ·) :=
  (List.pairwise_map.2 pairwise_index_groupByShard).sublist (opened_isPrefixOf_groups ..).sublist

/-- Only shards to which an item of the batch belongs are opened. -/
theorem exists_of_mem_opened {n : Nat} {keyOf : ι → Key} {batch : List ι} {i : Nat}
    (hi : i ∈ (pass visit (groupByShard n keyOf batch) state shards).opened) :
    i < n ∧ ∃ x ∈ batch, shardIndex n (keyOf x) = i := by
  obtain ⟨g, hg, rfl⟩ := List.mem_map.1 ((opened_isPrefixOf_groups ..).subset hi)
  obtain ⟨hlt, hitems, hne⟩ := mem_groupByShard.1 hg
  obtain ⟨x, hx⟩ := List.exists_mem_of_ne_nil _ hne
  exact ⟨hlt, x, mem_routedTo.1 (hitems ▸ hx)⟩

end Opened

namespace ShardMap

/-! ### One shard of a map -/

variable {m m' m'' : ShardMap α} {i : Nat} {k : Key}

/-- A shard by its index. -/
def shard (m : ShardMap α) (i : Nat) : Shard α := m.shards.getD i ∅

theorem shard_shardIndex : m.shard (shardIndex m.shardCount k) = m.shardOf k := by
  have hlt : shardIndex m.shardCount k < m.shards.size := shardIndex_lt m.shards_pos k
  rw [shard, Array.getD, dif_pos hlt]
  rfl

theorem contains_eq_shard (h : shardIndex m.shardCount k = i) :
    m.contains k = (m.shard i).contains k := by
  rw [← h, shard_shardIndex, contains]

theorem get?_eq_shard (h : shardIndex m.shardCount k = i) : m.get? k = (m.shard i)[k]? := by
  rw [← h, shard_shardIndex, get?]

/-- The second map differs from the first in one shard at most. -/
structure ChangesOnly (m m' : ShardMap α) (i : Nat) : Prop where
  /-- No shard was added. -/
  size_eq : m'.shards.size = m.shards.size
  /-- The other shards are as they were. -/
  getElem?_eq : ∀ j ≠ i, m'.shards[j]? = m.shards[j]?

theorem ChangesOnly.refl (m : ShardMap α) (i : Nat) : m.ChangesOnly m i := ⟨rfl, fun _ _ => rfl⟩

theorem ChangesOnly.trans (h : m.ChangesOnly m' i) (h' : m'.ChangesOnly m'' i) :
    m.ChangesOnly m'' i :=
  ⟨h'.size_eq.trans h.size_eq, fun j hj => (h'.getElem?_eq j hj).trans (h.getElem?_eq j hj)⟩

/-- Putting the one shard back leads to the changed map. -/
theorem ChangesOnly.setIfInBounds_eq (h : m.ChangesOnly m' i) :
    m.shards.setIfInBounds i (m'.shard i) = m'.shards := by
  refine Array.ext_getElem? fun j => ?_
  rw [Array.getElem?_setIfInBounds, ← h.size_eq]
  split
  · rename_i hij
    subst hij
    split
    · rename_i hlt
      rw [shard, Array.getD, dif_pos hlt, Array.getElem?_eq_getElem hlt]
      rfl
    · rename_i hlt
      rw [Array.getElem?_eq_none (Nat.le_of_not_lt hlt)]
  · rename_i hij
    exact (h.getElem?_eq j (Ne.symm hij)).symm

theorem changesOnly_modifyShard {f : Shard α → Shard α}
    {hf : ∀ s : Shard α, ∀ k' ∈ f s, k' = k ∨ k' ∈ s} :
    m.ChangesOnly (m.modifyShard k f hf) (shardIndex m.shardCount k) where
  size_eq := Array.size_modify
  getElem?_eq j hj := by
    change (m.shards.modify (shardIndex m.shardCount k) f)[j]? = _
    rw [Array.getElem?_modify, if_neg (Ne.symm hj)]

theorem shard_modifyShard {f : Shard α → Shard α}
    {hf : ∀ s : Shard α, ∀ k' ∈ f s, k' = k ∨ k' ∈ s} (h : shardIndex m.shardCount k = i) :
    (m.modifyShard k f hf).shard i = f (m.shard i) := by
  have hcount : (m.modifyShard k f hf).shardCount = m.shardCount := shardCount_modifyShard
  have hshard : (m.modifyShard k f hf).shardOf k = f (m.shardOf k) :=
    (shardOf_modifyShard k).trans (if_pos rfl)
  rw [← shard_shardIndex, ← shard_shardIndex, hcount, h] at hshard
  exact hshard

theorem changesOnly_insert (h : shardIndex m.shardCount k = i) (a : α) :
    m.ChangesOnly (m.insert k a) i := h ▸ changesOnly_modifyShard

theorem shard_insert (h : shardIndex m.shardCount k = i) (a : α) :
    (m.insert k a).shard i = (m.shard i).insert k a := shard_modifyShard h

theorem changesOnly_erase (h : shardIndex m.shardCount k = i) : m.ChangesOnly (m.erase k) i :=
  h ▸ changesOnly_modifyShard

theorem shard_erase (h : shardIndex m.shardCount k = i) :
    (m.erase k).shard i = (m.shard i).erase k := shard_modifyShard h

/-! ### Folds at one shard -/

/-- What a fold over items of one shard does to the map, it does to the shard: `view` is what the
fold at the shard knows of the state. -/
theorem foldl_shard {S T : Type} (keyOf : ι → Key) (mapOf : S → ShardMap α) (view : S → T)
    {f : S → ι → S} {g : T → ι → T}
    (hstep : ∀ s x, shardIndex (mapOf s).shardCount (keyOf x) = i →
      g (view s) x = view (f s x) ∧ (mapOf s).ChangesOnly (mapOf (f s x)) i)
    (items : List ι) (s : S)
    (hitems : ∀ x ∈ items, shardIndex (mapOf s).shardCount (keyOf x) = i) :
    items.foldl g (view s) = view (items.foldl f s) ∧
      (mapOf s).ChangesOnly (mapOf (items.foldl f s)) i := by
  induction items generalizing s with
  | nil => exact ⟨rfl, .refl _ _⟩
  | cons x items ih =>
    obtain ⟨hx, hitems⟩ := List.forall_mem_cons.1 hitems
    obtain ⟨hview, hchange⟩ := hstep s x hx
    have hcount : (mapOf (f s x)).shardCount = (mapOf s).shardCount := hchange.size_eq
    obtain ⟨hviews, hchanges⟩ := ih (f s x) (hcount ▸ hitems)
    rw [List.foldl_cons, List.foldl_cons, hview]
    exact ⟨hviews, hchange.trans hchanges⟩

/-! ### Groups, one after the other -/

/-- Works off groups one after the other, until there is nothing more to do. -/
def workOff {S : Type} (act : S → List ι → S × Bool) : List (ShardGroup ι) → S → S
  | [], s => s
  | g :: gs, s =>
    let r := act s g.items
    if r.2 then workOff act gs r.1 else r.1

/-- What is done with a group to the map, a visit does to the shard. -/
theorem pass_eq_workOff {S : Type} {keyOf : ι → Key} (mapOf : S → ShardMap α) (view : S → σ)
    {act : S → List ι → S × Bool} {visit : σ → List ι → Shard α → Visit α σ}
    (hvisit : ∀ s i items, (∀ x ∈ items, shardIndex (mapOf s).shardCount (keyOf x) = i) →
      visit (view s) items ((mapOf s).shard i) =
        ⟨view (act s items).1, (mapOf (act s items).1).shard i, (act s items).2⟩ ∧
      (mapOf s).ChangesOnly (mapOf (act s items).1) i)
    (gs : List (ShardGroup ι)) (s : S)
    (hgs : ∀ g ∈ gs, ∀ x ∈ g.items, shardIndex (mapOf s).shardCount (keyOf x) = g.index) :
    (pass visit gs (view s) (mapOf s).shards).state = view (workOff act gs s) ∧
      (pass visit gs (view s) (mapOf s).shards).shards = (mapOf (workOff act gs s)).shards := by
  induction gs generalizing s with
  | nil => exact ⟨rfl, rfl⟩
  | cons g gs ih =>
    obtain ⟨hg, hgs⟩ := List.forall_mem_cons.1 hgs
    obtain ⟨hv, hchange⟩ := hvisit s g.index g.items hg
    have hcount : (mapOf (act s g.items).1).shardCount = (mapOf s).shardCount := hchange.size_eq
    rw [shard] at hv
    rw [pass, workOff, hv]
    dsimp only
    rw [hchange.setIfInBounds_eq]
    split
    · exact ih _ (hcount ▸ hgs)
    · exact ⟨rfl, rfl⟩

theorem workOff_eq_foldl {S : Type} (f : S → List ι → S) (gs : List (ShardGroup ι)) (s : S) :
    workOff (fun s items => (f s items, true)) gs s = gs.foldl (fun s g => f s g.items) s := by
  induction gs generalizing s with
  | nil => rfl
  | cons g gs ih => exact ih _

/-- The outcome of a batch, what it answers and the map after it, is what a pass over its groups
comes to, which opens shards in their order, each once, and only shards that items belong to. -/
def InOnePass (m : ShardMap α) (keyOf : ι → Key) (batch : List ι)
    (visit : σ → List ι → Shard α → Visit α σ) (start : σ) (outcome : σ × ShardMap α) : Prop :=
  ∃ opened : List Nat,
    pass visit (groupByShard m.shardCount keyOf batch) start m.shards =
      ⟨opened, outcome.1, outcome.2.shards⟩ ∧
    opened.Pairwise (· < ·) ∧
    ∀ i ∈ opened, i < m.shardCount ∧ ∃ x ∈ batch, shardIndex m.shardCount (keyOf x) = i

theorem inOnePass_of_visits {S : Type} {keyOf : ι → Key} (mapOf : S → ShardMap α) (view : S → σ)
    {act : S → List ι → S × Bool} {visit : σ → List ι → Shard α → Visit α σ}
    (hvisit : ∀ s i items, (∀ x ∈ items, shardIndex (mapOf s).shardCount (keyOf x) = i) →
      visit (view s) items ((mapOf s).shard i) =
        ⟨view (act s items).1, (mapOf (act s items).1).shard i, (act s items).2⟩ ∧
      (mapOf s).ChangesOnly (mapOf (act s items).1) i)
    (batch : List ι) (s : S) :
    let s' := workOff act (groupByShard (mapOf s).shardCount keyOf batch) s
    (mapOf s).InOnePass keyOf batch visit (view s) (view s', mapOf s') := by
  intro s'
  obtain ⟨hstate, hshards⟩ := pass_eq_workOff mapOf view hvisit
    (groupByShard (mapOf s).shardCount keyOf batch) s
    fun g hg x hx => shardIndex_of_mem_items hg hx
  refine ⟨(pass visit (groupByShard (mapOf s).shardCount keyOf batch) (view s)
    (mapOf s).shards).opened, ?_, pairwise_opened .., fun i hi => exists_of_mem_opened _ _ _ hi⟩
  rw [← hstate, ← hshards]

/-! ### Lookups -/

variable (m) (ks : List Key) (pairs : List (Key × α))

/-- Whether one of the keys is in the open shard. The first one ends the pass. -/
def visitAny (_ : Bool) (ks : List Key) (s : Shard α) : Visit α Bool :=
  ⟨ks.any s.contains, s, !ks.any s.contains⟩

/-- Whether all of the keys are in the open shard. The first one missing ends the pass. -/
def visitAll (_ : Bool) (ks : List Key) (s : Shard α) : Visit α Bool :=
  ⟨ks.all s.contains, s, ks.all s.contains⟩

/-- Adds the pairs that the open shard has for the keys. -/
def visitGet (found : Std.ExtTreeMap Key α) (ks : List Key) (s : Shard α) :
    Visit α (Std.ExtTreeMap Key α) :=
  ⟨ks.foldl (collect (s[·]?)) found, s, true⟩

theorem inOnePass_hasAny : m.InOnePass id ks visitAny false (m.hasAny ks, m) := by
  have hwork (gs : List (ShardGroup Key)) :
      workOff (fun _ ks => (ks.any m.contains, !ks.any m.contains)) gs false =
        gs.any fun g => g.items.any m.contains := by
    induction gs with
    | nil => rfl
    | cons g gs ih =>
      rw [workOff, List.any_cons]
      cases h : g.items.any m.contains
      · simpa using ih
      · rfl
  rw [hasAny, ← hwork]
  refine inOnePass_of_visits (fun _ => m) id (fun found i ks hks => ⟨?_, .refl m i⟩) ks false
  have hany : ks.any m.contains = ks.any (m.shard i).contains := by
    rw [Bool.eq_iff_iff, List.any_eq_true, List.any_eq_true]
    exact exists_congr fun k => and_congr_right fun hk => by
      rw [contains_eq_shard (k := k) (hks k hk)]
  rw [hany]
  rfl

theorem inOnePass_hasAll : m.InOnePass id ks visitAll true (m.hasAll ks, m) := by
  have hwork (gs : List (ShardGroup Key)) :
      workOff (fun _ ks => (ks.all m.contains, ks.all m.contains)) gs true =
        gs.all fun g => g.items.all m.contains := by
    induction gs with
    | nil => rfl
    | cons g gs ih =>
      rw [workOff, List.all_cons]
      cases h : g.items.all m.contains
      · rfl
      · simpa using ih
  rw [hasAll, ← hwork]
  refine inOnePass_of_visits (fun _ => m) id (fun found i ks hks => ⟨?_, .refl m i⟩) ks true
  have hall : ks.all m.contains = ks.all (m.shard i).contains := by
    rw [Bool.eq_iff_iff, List.all_eq_true, List.all_eq_true]
    exact forall₂_congr fun k hk => by
      rw [contains_eq_shard (k := k) (hks k hk)]
  rw [hall]
  rfl

theorem inOnePass_getMany : m.InOnePass id ks visitGet ∅ (m.getMany ks, m) := by
  have hwork := workOff_eq_foldl (fun found ks => ks.foldl (collect m.get?) found)
    (m.groupKeys ks) ∅
  change m.InOnePass id ks visitGet ∅ ((m.groupKeys ks).foldl (fun found g =>
    g.items.foldl (collect m.get?) found) ∅, m)
  rw [← hwork]
  refine inOnePass_of_visits (fun _ => m) id (fun found i ks hks => ⟨?_, .refl m i⟩) ks ∅
  have hfold := foldl_shard id (fun _ => m) id (f := collect m.get?)
    (g := collect ((m.shard i)[·]?))
    (fun found k hk => ⟨by rw [id, id, collect, collect, get?_eq_shard (k := k) hk], .refl m i⟩)
    ks found hks
  exact congrArg (Visit.mk · (m.shard i) true) hfold.1

/-! ### Changes without conditions -/

/-- Stores the pairs in the open shard. -/
def visitInsert (_ : Unit) (pairs : List (Key × α)) (s : Shard α) : Visit α Unit :=
  ⟨(), pairs.foldl (fun s p => s.insert p.1 p.2) s, true⟩

/-- Removes the keys from the open shard. -/
def visitErase (_ : Unit) (ks : List Key) (s : Shard α) : Visit α Unit :=
  ⟨(), ks.foldl (fun s k => s.erase k) s, true⟩

variable {m pairs ks}

/-- The pairs of a group are stored in its shard. -/
theorem shard_insertGroup (h : ∀ p ∈ pairs, shardIndex m.shardCount p.1 = i) :
    pairs.foldl (fun s p => s.insert p.1 p.2) (m.shard i) = (m.insertGroup pairs).shard i ∧
      m.ChangesOnly (m.insertGroup pairs) i := by
  exact foldl_shard Prod.fst id (·.shard i)
    (fun m p hp => ⟨(shard_insert hp p.2).symm, changesOnly_insert hp p.2⟩) pairs m h

/-- The keys of a group are removed from its shard. -/
theorem shard_eraseGroup (h : ∀ k ∈ ks, shardIndex m.shardCount k = i) :
    ks.foldl (fun s k => s.erase k) (m.shard i) = (m.eraseGroup ks).shard i ∧
      m.ChangesOnly (m.eraseGroup ks) i := by
  exact foldl_shard id id (·.shard i)
    (fun m k hk => ⟨(shard_erase (k := k) hk).symm, changesOnly_erase (k := k) hk⟩) ks m h

variable (m pairs ks)

theorem inOnePass_insertAll :
    m.InOnePass Prod.fst pairs visitInsert () ((), m.insertAll pairs) := by
  rw [insertAll, ← workOff_eq_foldl insertGroup]
  refine inOnePass_of_visits id (fun _ => ()) (fun m i pairs hpairs => ?_) pairs m
  obtain ⟨hshard, hchange⟩ := shard_insertGroup hpairs
  exact ⟨congrArg (Visit.mk () · true) hshard, hchange⟩

theorem inOnePass_eraseAll : m.InOnePass id ks visitErase () ((), m.eraseAll ks) := by
  rw [eraseAll, ← workOff_eq_foldl eraseGroup]
  refine inOnePass_of_visits id (fun _ => ()) (fun m i ks hks => ?_) ks m
  obtain ⟨hshard, hchange⟩ := shard_eraseGroup hks
  exact ⟨congrArg (Visit.mk () · true) hshard, hchange⟩

/-! ### Changes that are reported -/

/-- Stores one pair in the open shard if its key is free, and then puts the key in front of the
report. -/
def claimFreeAt (state : List Key × Shard α) (p : Key × α) : List Key × Shard α :=
  if state.2.contains p.1 then state else (p.1 :: state.1, state.2.insert p.1 p.2)

/-- Stores each pair whose key is free in the open shard. -/
def visitClaimFree (report : List Key) (pairs : List (Key × α)) (s : Shard α) :
    Visit α (List Key) :=
  let r := pairs.foldl claimFreeAt (report, s)
  ⟨r.1, r.2, true⟩

/-- Removes one key from the open shard if its value satisfies a test, and then puts it in front of
the report. -/
def eraseIfAt (p : α → Bool) (state : List Key × Shard α) (k : Key) : List Key × Shard α :=
  if state.2[k]?.any p then (k :: state.1, state.2.erase k) else state

/-- Removes each key whose value in the open shard satisfies a test. -/
def visitEraseIf (p : α → Bool) (report : List Key) (ks : List Key) (s : Shard α) :
    Visit α (List Key) :=
  let r := ks.foldl (eraseIfAt p) (report, s)
  ⟨r.1, r.2, true⟩

theorem inOnePass_claimFree : ∃ report, (m.claimFree pairs).1 = report.reverse ∧
    m.InOnePass Prod.fst pairs visitClaimFree [] (report, (m.claimFree pairs).2) := by
  refine ⟨_, rfl, ?_⟩
  rw [claimFree, ← workOff_eq_foldl fun state pairs => pairs.foldl claimFreeStep state]
  refine inOnePass_of_visits (S := List Key × ShardMap α) Prod.snd Prod.fst
    (fun state i pairs hpairs => ?_) pairs ([], m)
  have hfold := foldl_shard Prod.fst (i := i) Prod.snd
    (fun state => (state.1, state.2.shard i)) (f := claimFreeStep) (g := claimFreeAt)
    (fun state p hp => ?_) pairs state hpairs
  · exact ⟨by rw [visitClaimFree, hfold.1], hfold.2⟩
  · rw [claimFreeStep, claimFreeAt, contains_eq_shard hp]
    split
    · exact ⟨rfl, .refl _ _⟩
    · exact ⟨congrArg (Prod.mk (p.1 :: state.1)) (shard_insert hp p.2).symm,
        changesOnly_insert hp p.2⟩

theorem inOnePass_eraseAllIf (p : α → Bool) : ∃ report, (m.eraseAllIf ks p).1 = report.reverse ∧
    m.InOnePass id ks (visitEraseIf p) [] (report, (m.eraseAllIf ks p).2) := by
  refine ⟨_, rfl, ?_⟩
  rw [eraseAllIf, ← workOff_eq_foldl fun state ks => ks.foldl (eraseIfStep p) state]
  refine inOnePass_of_visits (S := List Key × ShardMap α) Prod.snd Prod.fst
    (fun state i ks hks => ?_) ks ([], m)
  have hfold := foldl_shard id (i := i) Prod.snd
    (fun state => (state.1, state.2.shard i)) (f := eraseIfStep p) (g := eraseIfAt p)
    (fun state k hk => ?_) ks state hks
  · exact ⟨by rw [visitEraseIf, hfold.1], hfold.2⟩
  · rw [eraseIfStep, eraseIfAt, get?_eq_shard (k := k) hk]
    split
    · exact ⟨congrArg (Prod.mk (k :: state.1)) (shard_erase (k := k) hk).symm,
        changesOnly_erase (k := k) hk⟩
    · exact ⟨rfl, .refl _ _⟩

/-! ### Claims -/

/-- Stores the pairs in the open shard if all their keys are free there, and lists the keys as
taken. A key that is not free ends the pass, and the claim has failed. -/
def visitClaim (state : Bool × List Key) (pairs : List (Key × α)) (s : Shard α) :
    Visit α (Bool × List Key) :=
  if pairs.any fun p => s.contains p.1 then ⟨(false, state.2), s, false⟩
  else ⟨(true, pairs.map Prod.fst ++ state.2), pairs.foldl (fun s p => s.insert p.1 p.2) s, true⟩

/-- What a claim does with one group. -/
def claimStep (state : (Bool × List Key) × ShardMap α) (pairs : List (Key × α)) :
    ((Bool × List Key) × ShardMap α) × Bool :=
  if pairs.any fun p => state.2.contains p.1 then (((false, state.1.2), state.2), false)
  else (((true, pairs.map Prod.fst ++ state.1.2), state.2.insertGroup pairs), true)

theorem claimGroups_eq_workOff (gs : List (ShardGroup (Key × α))) (taken : List Key)
    (m : ShardMap α) :
    claimGroups taken gs m =
      let r := workOff claimStep gs ((true, taken), m)
      if r.1.1 then (true, r.2) else (false, r.2.eraseAll r.1.2) := by
  induction gs generalizing taken m with
  | nil => rfl
  | cons g gs ih =>
    rw [claimGroups, workOff, claimStep]
    split
    · rfl
    · exact ih ..

/-- The pass of a claim takes the shards one after the other, up to the first that has one of the
keys. What was taken until then is given back by a further batch. -/
theorem inOnePass_claimAll : ∃ (taken : List Key) (m' : ShardMap α),
    m.InOnePass Prod.fst pairs visitClaim (true, []) (((m.claimAll pairs).1, taken), m') ∧
      (m.claimAll pairs).2 = if (m.claimAll pairs).1 then m' else m'.eraseAll taken := by
  let r := workOff claimStep (m.groupPairs pairs) ((true, []), m)
  have hclaim : m.claimAll pairs = if r.1.1 then (true, r.2) else (false, r.2.eraseAll r.1.2) :=
    claimGroups_eq_workOff ..
  have hanswer : (m.claimAll pairs).1 = r.1.1 := by
    rw [hclaim]
    cases r.1.1 <;> rfl
  refine ⟨r.1.2, r.2, ?_, ?_⟩
  · rw [hanswer]
    refine inOnePass_of_visits (S := (Bool × List Key) × ShardMap α) Prod.snd Prod.fst
      (fun state i pairs hpairs => ?_) pairs ((true, []), m)
    have hany : (pairs.any fun p => state.2.contains p.1) =
        pairs.any fun p => (state.2.shard i).contains p.1 := by
      rw [Bool.eq_iff_iff, List.any_eq_true, List.any_eq_true]
      exact exists_congr fun p => and_congr_right fun hp => by rw [contains_eq_shard (hpairs p hp)]
    obtain ⟨hshard, hchange⟩ := shard_insertGroup hpairs
    rw [visitClaim, claimStep, hany]
    split
    · exact ⟨rfl, .refl _ _⟩
    · exact ⟨by rw [hshard], hchange⟩
  · rw [hanswer, hclaim]
    cases r.1.1 <;> rfl

/-! ### All batches -/

/-- Every batch on a map is one pass over its groups. A claim that fails is followed by the removal
of what its pass took, a batch of its own. -/
structure WorksInPasses (m : ShardMap α) : Prop where
  hasAny : ∀ ks, m.InOnePass id ks visitAny false (m.hasAny ks, m)
  hasAll : ∀ ks, m.InOnePass id ks visitAll true (m.hasAll ks, m)
  getMany : ∀ ks, m.InOnePass id ks visitGet ∅ (m.getMany ks, m)
  insertAll : ∀ pairs, m.InOnePass Prod.fst pairs visitInsert () ((), m.insertAll pairs)
  eraseAll : ∀ ks, m.InOnePass id ks visitErase () ((), m.eraseAll ks)
  claimFree : ∀ pairs, ∃ report, (m.claimFree pairs).1 = report.reverse ∧
    m.InOnePass Prod.fst pairs visitClaimFree [] (report, (m.claimFree pairs).2)
  eraseAllIf : ∀ ks p, ∃ report, (m.eraseAllIf ks p).1 = report.reverse ∧
    m.InOnePass id ks (visitEraseIf p) [] (report, (m.eraseAllIf ks p).2)
  claimAll : ∀ pairs, ∃ (taken : List Key) (m' : ShardMap α),
    m.InOnePass Prod.fst pairs visitClaim (true, []) (((m.claimAll pairs).1, taken), m') ∧
      (m.claimAll pairs).2 = if (m.claimAll pairs).1 then m' else m'.eraseAll taken

theorem worksInPasses : m.WorksInPasses where
  hasAny := m.inOnePass_hasAny
  hasAll := m.inOnePass_hasAll
  getMany := m.inOnePass_getMany
  insertAll := m.inOnePass_insertAll
  eraseAll := m.inOnePass_eraseAll
  claimFree := m.inOnePass_claimFree
  eraseAllIf := m.inOnePass_eraseAllIf
  claimAll := m.inOnePass_claimAll

end ShardMap

/-- Grouping by shard is a stable partition. The groups stand in the order of their shards; there is
a group for exactly the shards that items belong to, and it holds those items in the order of the
batch, repetitions included; together the groups hold what the batch holds. So every batch on a
sharded map opens a shard at most once; what a failed claim took is given back by a batch of its
own. -/
theorem groupByShard_stable {ι : Type} {n : Nat} (hn : 0 < n) (keyOf : ι → Key) (batch : List ι) :
    ((groupByShard n keyOf batch).Pairwise fun g g' => g.index < g'.index) ∧
    (∀ i items, ⟨i, items⟩ ∈ groupByShard n keyOf batch ↔
      i < n ∧ items ≠ [] ∧ items = batch.filter fun x => (keyOf x).toNat % n = i) ∧
    ((groupByShard n keyOf batch).flatMap ShardGroup.items).Perm batch ∧
    ∀ (α : Type) (m : ShardMap α), m.WorksInPasses := by
  refine ⟨pairwise_index_groupByShard, fun i items => ?_, perm_flatMap_groupByShard hn,
    fun α m => m.worksInPasses⟩
  rw [mem_groupByShard, and_comm (a := items ≠ [])]
  rfl

/-- Items of three shards, one of them without any: the other two groups hold them in order, and
together they are all the items. -/
theorem groupByShard_stable_of_three :
    0 < 3 ∧ (groupByShard 3 id [7, 3, 4, 7, 1, 3]).map (fun g => (g.index, g.items)) =
        [(0, [3, 3]), (1, [7, 4, 7, 1])] ∧
      ((groupByShard 3 id [7, 3, 4, 7, 1, 3]).flatMap ShardGroup.items).Perm [7, 3, 4, 7, 1, 3] :=
  ⟨by decide, rfl, (groupByShard_stable (by decide) id [7, 3, 4, 7, 1, 3]).2.2.1⟩

end ClaimGrid
