import Mathlib.Algebra.GroupWithZero.Nat
import Mathlib.Data.List.Dedup
import ClaimGrid.Proofs.Board.Step
import ClaimGrid.Proofs.Shard.Count

/-!
# Callers that keep a ledger

A caller remembers for each of its objects the body that it has: the location that the last request
for it asked for, where it was taken as a whole, or the location that was answered. If every move
and every removal names a location with the dots of that body, then the ledger and the board never
disagree, whatever requests are made and whichever of them are refused.

## Main definitions

* `Ledger`: the objects of a caller with their bodies.
* `Ledger.Admits`: a request names the body of its object.
* `Ledger.record`: the ledger after a request was answered.
* `Board.Tracked`: the boards and ledgers that admitted requests lead to from an empty board.
* `Ledger.Agrees`: a ledger agrees with a board, dot by dot.

## Main results

* `Ledger.Agrees.step`: an admitted request keeps the agreement.
* `Ledger.Agrees.occupiedCount_eq_sum`: the bodies account for every claimed dot.
* `Board.tracked_ledger_exact`: what holds along every run.
-/

namespace ClaimGrid

/-- The objects of a caller, oldest first, each with its body. -/
abbrev Ledger (α : Type) := List (α × Location)

namespace Ledger

variable {α : Type}

/-- A request that moves or removes an object names a location with the dots of its body. -/
def Admits (L : Ledger α) (r : BoardRequest α) : Prop :=
  r.effect ≠ .create → ∀ body, (r.object, body) ∈ L → r.old.SameDots body

variable [DecidableEq α]

/-- The ledger after a request was answered. A refused request leaves it. -/
def record (L : Ledger α) (r : BoardRequest α) : Except BoardError Board.Answer → Ledger α
  | .error _ => L
  | .ok answer =>
    match r.effect with
    | .create => L ++ [(r.object, r.held answer)]
    | .update => L.map fun p => if p.1 = r.object then (p.1, r.held answer) else p
    | .delete => L.filter fun p => p.1 != r.object

/-- The ledger lists the objects on the board, and each has exactly the dots of its body. -/
structure Agrees (L : Ledger α) (b : Board α) : Prop where
  /-- The ledger lists the objects in the order of the registry. -/
  objects_eq : b.objects = L.map Prod.fst
  /-- No object is on the board twice. -/
  nodup : b.objects.Nodup
  /-- An object claims the dots of its body. -/
  owner?_iff : ∀ p ∈ L, ∀ d, b.owner? d = some p.1 ↔ d ∈ p.2
  /-- Who claims a dot is on the board. -/
  mem_objects : ∀ d o, b.owner? d = some o → o ∈ b.objects

end Ledger

namespace Board

variable {α : Type} [DecidableEq α]

/-- A board with the ledger of its caller, after a run of admitted requests from an empty board. -/
inductive Tracked (area : Area) (settings : BoardSettings) : Board α → Ledger α → Prop where
  | start {b : Board α} (h : Board.make area settings = .ok b) : Tracked area settings b []
  | step {b : Board α} {L : Ledger α} (h : Tracked area settings b L) (r : BoardRequest α)
      (hr : L.Admits r) : Tracked area settings (b.step r).2 (L.record r (b.step r).1)

end Board

namespace Ledger

variable {α : Type} [DecidableEq α] {L : Ledger α} {b b' : Board α} {r : BoardRequest α}
  {answer : Board.Answer}

/-! ### What a granted request does to the ledger -/

/-- An entry of the new ledger is an old one of another object, or the one just written. -/
theorem mem_record {p : α × Location} (hlisted : r.object ∈ L.map Prod.fst ↔ r.effect ≠ .create)
    (hp : p ∈ L.record r (.ok answer)) :
    (p.1 ≠ r.object ∧ p ∈ L) ∨ (p.1 = r.object ∧ r.effect ≠ .delete ∧ p.2 = r.held answer) := by
  have hkey (hp : p ∈ L) (he : p.1 = r.object) : r.object ∈ L.map Prod.fst :=
    he ▸ List.mem_map_of_mem hp
  rw [record] at hp
  cases heffect : r.effect with
  | create =>
    rw [heffect] at hp
    rcases List.mem_append.1 hp with hp | hp
    · exact .inl ⟨fun he => hlisted.1 (hkey hp he) heffect, hp⟩
    · obtain rfl := List.mem_singleton.1 hp
      exact .inr ⟨rfl, nofun, rfl⟩
  | update =>
    rw [heffect] at hp
    obtain ⟨q, hq, rfl⟩ := List.mem_map.1 hp
    by_cases he : q.1 = r.object
    · rw [if_pos he]
      exact .inr ⟨he, nofun, rfl⟩
    · rw [if_neg he]
      exact .inl ⟨he, hq⟩
  | delete =>
    rw [heffect] at hp
    obtain ⟨hp, he⟩ := List.mem_filter.1 hp
    exact .inl ⟨bne_iff_ne.1 he, hp⟩

/-- The ledger follows the registry. -/
theorem map_fst_record (hnodup : (L.map Prod.fst).Nodup) :
    (L.record r (.ok answer)).map Prod.fst = r.registryAfter (L.map Prod.fst) := by
  rw [record, BoardRequest.registryAfter]
  cases r.effect with
  | create => rw [List.map_append]; rfl
  | update =>
    rw [List.map_map]
    refine List.map_congr_left fun p _ => ?_
    dsimp only [Function.comp]
    split <;> rfl
  | delete =>
    rw [hnodup.erase_eq_filter, List.filter_map]
    rfl

/-! ### One request -/

omit [DecidableEq α] in
/-- An admitted request says of its object exactly what the object claims. -/
theorem Agrees.owner?_eq_some_object (h : L.Agrees b) (hr : L.Admits r)
    (hlisted : r.object ∈ b.objects ↔ r.effect ≠ .create) (d : Dot) :
    b.owner? d = some r.object ↔ d ∈ r.old := by
  by_cases heffect : r.effect = .create
  · rw [r.old_eq_empty heffect]
    refine iff_of_false (fun hd => ?_) List.not_mem_nil
    exact hlisted.1 (h.mem_objects d _ hd) heffect
  · have hmem := hlisted.2 heffect
    rw [h.objects_eq] at hmem
    obtain ⟨⟨o, body⟩, hp, ho⟩ := List.mem_map.1 hmem
    obtain rfl : o = r.object := ho
    rw [h.owner?_iff _ hp d, hr heffect body hp d]

theorem Agrees.granted (h : L.Agrees b) (hr : L.Admits r) (hg : Board.Granted r answer b b') :
    (L.record r (.ok answer)).Agrees b' := by
  have hnodup : (L.map Prod.fst).Nodup := h.objects_eq ▸ h.nodup
  have hlisted : r.object ∈ L.map Prod.fst ↔ r.effect ≠ .create := h.objects_eq ▸ hg.listed
  have hself (d : Dot) : b'.owner? d = some r.object ↔ d ∈ r.held answer :=
    hg.exchange.owner?_eq_some_self (h.owner?_eq_some_object hr hg.listed)
  -- the other objects keep their claims, so only the entry of the request's object needs `hself`
  refine ⟨?_, ?_, fun p hp d => ?_, fun d o hd => ?_⟩
  · rw [hg.objects_eq, h.objects_eq, map_fst_record hnodup]
  · rw [hg.objects_eq]
    exact BoardRequest.nodup_registryAfter h.nodup hg.listed
  · rcases mem_record hlisted hp with ⟨hne, hp⟩ | ⟨he, -, hbody⟩
    · rw [hg.exchange.owner?_eq_some_of_ne hne, h.owner?_iff p hp]
    · rw [he, hbody, hself]
  · rw [hg.objects_eq]
    by_cases ho : o = r.object
    · subst ho
      exact BoardRequest.object_mem_registryAfter hg.listed ((hself d).1 hd)
    · rw [hg.exchange.owner?_eq_some_of_ne ho] at hd
      exact BoardRequest.mem_registryAfter_of_ne ho (h.mem_objects d o hd)

/-- An admitted request, granted or refused, keeps the agreement. -/
theorem Agrees.step (h : L.Agrees b) (hr : L.Admits r) :
    (L.record r (b.step r).1).Agrees (b.step r).2 := by
  rcases Board.step_cases b r with ⟨e, s, hstep, -⟩ | ⟨answer, hanswer, hg⟩
  · rw [hstep]
    exact ⟨h.objects_eq, h.nodup, h.owner?_iff, h.mem_objects⟩
  · rw [hanswer]
    exact h.granted hr hg

end Ledger

namespace Ledger

variable {α : Type} {L : Ledger α} {b : Board α}

/-! ### Every dot is accounted for -/

/-- Bodies of two objects share no dot. -/
theorem Agrees.notMem_of_mem (h : L.Agrees b) {p q : α × Location} (hp : p ∈ L) (hq : q ∈ L)
    (hne : p.1 ≠ q.1) {d : Dot} (hd : d ∈ p.2) : d ∉ q.2 := by
  intro hd'
  have howner := (h.owner?_iff p hp d).2 hd
  rw [(h.owner?_iff q hq d).2 hd'] at howner
  exact hne (Option.some.inj howner).symm

/-- The keys that a ledger says are claimed, object by object. -/
def claimedKeys (L : Ledger α) : List Key := L.flatMap fun p => (p.2.dots.dedup.map Dot.key)

theorem Agrees.mem_claimedKeys (h : L.Agrees b) {d : Dot} :
    d.key ∈ L.claimedKeys ↔ (b.owner? d).isSome = true := by
  simp only [claimedKeys, List.mem_flatMap, List.mem_map, List.mem_dedup, Dot.key_inj,
    exists_eq_right]
  constructor
  · rintro ⟨p, hp, hd⟩
    rw [(h.owner?_iff p hp d).2 hd]
    rfl
  · intro hd
    obtain ⟨o, ho⟩ := Option.isSome_iff_exists.1 hd
    have hmem := h.mem_objects d o ho
    rw [h.objects_eq] at hmem
    obtain ⟨p, hp, rfl⟩ := List.mem_map.1 hmem
    exact ⟨p, hp, (h.owner?_iff p hp d).1 ho⟩

theorem Agrees.nodup_claimedKeys (h : L.Agrees b) : L.claimedKeys.Nodup := by
  refine List.nodup_flatMap.2 ⟨fun p _ => ?_, ?_⟩
  · exact (List.nodup_dedup _).map fun _ _ => Dot.key_inj.1
  · have hnodup : (L.map Prod.fst).Nodup := h.objects_eq ▸ h.nodup
    refine (List.pairwise_map.1 hnodup).imp_of_mem fun hp hq hne k hkp hkq => ?_
    obtain ⟨d, hd, rfl⟩ := List.mem_map.1 hkp
    obtain ⟨d', hd', hkey⟩ := List.mem_map.1 hkq
    obtain rfl := Dot.key_inj.1 hkey
    exact h.notMem_of_mem hp hq hne (List.mem_dedup.1 hd) (List.mem_dedup.1 hd')

/-- The claimed dots are the distinct dots of all bodies, counted body by body. -/
theorem Agrees.occupiedCount_eq_sum (h : L.Agrees b) :
    b.occupiedCount = (L.map fun p => p.2.dots.dedup.length).sum := by
  -- both lists are without repeats, so they hold the same keys in some order
  have hperm : b.occupancy.keys.Perm L.claimedKeys := by
    refine (List.perm_ext_iff_of_nodup ShardMap.nodup_keys h.nodup_claimedKeys).2 fun k => ?_
    rw [ShardMap.mem_keys, ← Dot.key_ofKey k, h.mem_claimedKeys]
    rfl
  rw [Board.occupiedCount, ShardMap.size_eq_length_keys, hperm.length_eq, claimedKeys,
    List.length_flatMap]
  simp only [List.length_map]

end Ledger

namespace Board

variable {α : Type} [DecidableEq α] {area : Area} {settings : BoardSettings}

/-! ### Along a run -/

theorem Tracked.agrees {b : Board α} {L : Ledger α} (h : Tracked area settings b L) :
    L.Agrees b := by
  induction h with
  | start hmake =>
    have hobjects := objects_of_make hmake
    refine ⟨hobjects, hobjects ▸ List.nodup_nil, fun p hp => absurd hp List.not_mem_nil, ?_⟩
    intro d o hd
    rw [owner?_of_make hmake] at hd
    exact absurd hd nofun
  | step _ r hr ih => exact ih.step hr

/-- Along every run of a caller that names its bodies, the objects on the board are those of the
ledger, each claims exactly the dots of its body, nobody else claims a dot, no two bodies overlap,
and the counts of the board are those of the ledger. -/
theorem tracked_ledger_exact {b : Board α} {L : Ledger α} (h : Tracked area settings b L) :
    b.objects = L.map Prod.fst ∧ b.objects.Nodup ∧
      (∀ p ∈ L, ∀ d, b.owner? d = some p.1 ↔ d ∈ p.2) ∧
      (∀ o, o ∉ b.objects → ∀ d, b.owner? d ≠ some o) ∧
      (∀ p ∈ L, ∀ q ∈ L, p.1 ≠ q.1 → ∀ d ∈ p.2, d ∉ q.2) ∧
      b.occupiedCount = (L.map fun p => p.2.dots.dedup.length).sum ∧
      b.objectCount = L.length := by
  have hagrees := h.agrees
  refine ⟨hagrees.objects_eq, hagrees.nodup, hagrees.owner?_iff, fun o ho d hd => ?_,
    fun p hp q hq hne d hd => hagrees.notMem_of_mem hp hq hne hd, hagrees.occupiedCount_eq_sum, ?_⟩
  · exact ho (hagrees.mem_objects d o hd)
  · rw [objectCount, hagrees.objects_eq, List.length_map]

/-- An object is placed with a repeated dot, moves by a dot, and a second one takes what is left. -/
theorem tracked_ledger_exact_moved :
    ∃ b : Board Nat, Tracked ⟨4, 4, by decide, by decide⟩ {} b
        [(0, ⟨[⟨1, 0⟩, ⟨2, 0⟩]⟩), (1, ⟨[⟨0, 0⟩]⟩)] ∧
      b.occupiedCount = 3 ∧ b.objectCount = 2 ∧ b.owner? ⟨2, 0⟩ = some 0 := by
  have hstart : Board.make (α := Nat) ⟨4, 4, by decide, by decide⟩ {} = .ok _ := rfl
  have hcreate := (Tracked.start hstart).step (.create 0 ⟨[⟨0, 0⟩, ⟨1, 0⟩, ⟨0, 0⟩]⟩)
    fun h => absurd rfl h
  have hmove := hcreate.step (.update 0 ⟨[⟨1, 0⟩, ⟨0, 0⟩]⟩ ⟨[⟨1, 0⟩, ⟨2, 0⟩]⟩)
    fun _ body hbody => by
      obtain ⟨-, rfl⟩ := Prod.mk.inj (List.mem_singleton.1 hbody)
      decide
  have hsecond := hmove.step (.createAvailable 1 ⟨[⟨0, 0⟩, ⟨1, 0⟩]⟩) fun h => absurd rfl h
  obtain ⟨-, -, howner, -, -, hdots, hobjects⟩ := tracked_ledger_exact hsecond
  exact ⟨_, hsecond, hdots, hobjects, (howner (0, _) List.mem_cons_self _).2 (by decide)⟩

end Board

end ClaimGrid
