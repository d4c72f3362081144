import Mathlib.Data.List.FinRange
import Mathlib.Data.List.Nodup
import ClaimGrid.Grid.Location

/-!
# Locations as sets of dots

A location is a list, with an order and with repetitions; what it stands for is the set of its dots.
The selections and the edits are described on both sides. A selection shares out the positions of
the list, each to the shared dots or to the others, and an edit leaves the other dots in place. On
the side of the sets, selections are intersection and difference, edits insert and remove, and two
locations are the same place when the sets are equal.

## Main definitions

* `Location.positions`: the positions at which dots of some kind stand.
* `Location.SharesOut`: every position goes to one of two selections.
* `Location.Edits`: an edit that touches one dot only and answers whether it changed the set.

## Main results

* `Location.sharesOut`: intersection and difference.
* `Location.equivalence_sameDots`, `Location.sameDots_iff_difference`: equality of places.
* `Location.SameDots.difference`, `Location.SameDots.intersection`: selections respect it.
* `Location.edits_add`, `Location.edits_delete`: the two edits.
* `Location.set_algebra`: all of these.
-/

namespace ClaimGrid.Location

/-! ### Selections -/

/-- The positions of a location at which a dot that passes a test stands, in order. -/
def positions (l : Location) (p : Dot → Bool) : List (Fin l.dots.length) :=
  (List.finRange l.dots.length).filter (p ∘ l.dots.get)

/-- The positions of `l` are shared out: in their order, those with a dot of `other` go to `shared`
and those without to `rest`. -/
structure SharesOut (l other shared rest : Location) : Prop where
  /-- The dots shared stand at the positions with a dot of `other`. -/
  shared_eq : shared.dots = (l.positions (· ∈ other)).map l.dots.get
  /-- The other dots stand at the positions without one. -/
  rest_eq : rest.dots = (l.positions (· ∉ other)).map l.dots.get
  /-- Every position is given away once. -/
  perm : (l.positions (· ∈ other) ++ l.positions (· ∉ other)).Perm (List.finRange l.dots.length)
  /-- The dots shared stand in order. -/
  shared_sublist : shared.dots.Sublist l.dots
  /-- The other dots stand in order. -/
  rest_sublist : rest.dots.Sublist l.dots

variable {l l' other other' : Location} {d : Dot}

theorem dots_intersection (l other : Location) :
    (l.intersection other).dots = l.dots.filter (· ∈ other) := by
  rw [intersection]
  refine List.filter_congr fun d _ => ?_
  rw [Bool.eq_iff_iff, contains_keySet, decide_eq_true_eq]

theorem dots_difference (l other : Location) :
    (l.difference other).dots = l.dots.filter (· ∉ other) := by
  rw [difference]
  refine List.filter_congr fun d _ => ?_
  rw [Bool.eq_iff_iff, Bool.not_eq_true', ← Bool.not_eq_true, contains_keySet, decide_eq_true_eq]

/-- Selecting positions and selecting dots is the same. -/
theorem map_get_positions (l : Location) (p : Dot → Bool) :
    (l.positions p).map l.dots.get = l.dots.filter p := by
  rw [positions, ← List.filter_map, List.map_get_finRange]

theorem sharesOut (l other : Location) :
    l.SharesOut other (l.intersection other) (l.difference other) where
  shared_eq := by rw [dots_intersection, map_get_positions]
  rest_eq := by rw [dots_difference, map_get_positions]
  perm := by
    simpa [positions, Function.comp_def] using List.filter_append_perm
      (fun i => decide (l.dots.get i ∈ other)) (List.finRange l.dots.length)
  shared_sublist := List.filter_sublist
  rest_sublist := List.filter_sublist

/-! ### The same place -/

theorem sameDots_self (l : Location) : l.sameDots l = true := sameDots_iff.2 fun _ => Iff.rfl

theorem equivalence_sameDots : Equivalence fun l other : Location => l.sameDots other = true where
  refl := sameDots_self
  symm h := sameDots_iff.2 fun d => (sameDots_iff.1 h d).symm
  trans h h' := sameDots_iff.2 fun d => (sameDots_iff.1 h d).trans (sameDots_iff.1 h' d)

theorem isEmpty_iff : l.isEmpty = true ↔ ∀ d, d ∉ l := by
  rw [isEmpty, List.isEmpty_iff, List.eq_nil_iff_forall_not_mem]
  rfl

theorem isEmpty_difference_iff :
    (l.difference other).isEmpty = true ↔ ∀ d ∈ l, d ∈ other := by
  rw [isEmpty_iff]
  refine forall_congr' fun d => ?_
  rw [mem_difference, not_and, not_not]

/-- Two locations are the same place when none has a dot that the other lacks. -/
theorem sameDots_iff_difference : l.sameDots other = true ↔
    (l.difference other).isEmpty = true ∧ (other.difference l).isEmpty = true := by
  rw [sameDots_iff, isEmpty_difference_iff, isEmpty_difference_iff, ← forall_and]
  exact forall_congr' fun d => iff_iff_implies_and_implies

theorem sameDots_iff_contains :
    l.sameDots other = true ↔ ∀ d, l.contains d = other.contains d := by
  rw [sameDots_iff]
  refine forall_congr' fun d => ?_
  rw [Bool.eq_iff_iff, contains_iff, contains_iff]

/-- Only the dots count for being the same place as another location. -/
theorem SameDots.sameDots_eq (h : l.SameDots l') (other : Location) :
    l.sameDots other = l'.sameDots other := by
  rw [Bool.eq_iff_iff, sameDots_iff, sameDots_iff]
  exact forall_congr' fun d => iff_congr (h d) Iff.rfl

theorem sameDots_reverse (l : Location) : l.reverse.SameDots l := fun _ => List.mem_reverse

theorem SameDots.difference (hl : l.SameDots l') (hother : other.SameDots other') :
    (l.difference other).SameDots (l'.difference other') := fun d => by
  rw [mem_difference, mem_difference, hl d, hother d]

theorem SameDots.intersection (hl : l.SameDots l') (hother : other.SameDots other') :
    (l.intersection other).SameDots (l'.intersection other') := fun d => by
  rw [mem_intersection, mem_intersection, hl d, hother d]

/-! ### Edits -/

/-- The outcome of an edit that touches the mentions of one dot only and repeats none. It answers
whether the set of dots changed. -/
structure Edits (l : Location) (d : Dot) (outcome : Bool × Location) : Prop where
  /-- The answer tells whether the set changed. -/
  changed_iff : outcome.1 = true ↔ ¬outcome.2.SameDots l
  /-- The other dots stand as they did. -/
  others_eq : outcome.2.dots.filter (· ≠ d) = l.dots.filter (· ≠ d)
  /-- A dot that is repeated was so before. -/
  repeated : ∀ x, 1 < outcome.2.dots.count x → 1 < l.dots.count x

theorem add_of_mem (h : d ∈ l) : l.add d = (false, l) := if_pos (contains_iff.2 h)

theorem add_of_notMem (h : d ∉ l) : l.add d = (true, ⟨l.dots ++ [d]⟩) :=
  if_neg fun hd => h (contains_iff.1 hd)

theorem mem_add {x : Dot} : x ∈ (l.add d).2 ↔ x = d ∨ x ∈ l := by
  by_cases h : d ∈ l
  · rw [add_of_mem h]
    exact ⟨.inr, fun hx => hx.elim (fun he => he ▸ h) id⟩
  · rw [add_of_notMem h, mem_def, List.mem_append, List.mem_singleton, or_comm]
    rfl

theorem mem_delete {x : Dot} : x ∈ (l.delete d).2 ↔ x ≠ d ∧ x ∈ l := by
  rw [delete, mem_def, List.mem_filter, decide_eq_true_eq, and_comm]
  rfl

theorem edits_add (l : Location) (d : Dot) : l.Edits d (l.add d) := by
  by_cases h : d ∈ l
  · rw [add_of_mem h]
    exact ⟨⟨nofun, fun hne => absurd (fun _ => Iff.rfl) hne⟩, rfl, fun _ => id⟩
  · have hnew : d ∈ (l.add d).2 := mem_add.2 (.inl rfl)
    rw [add_of_notMem h] at hnew ⊢
    refine ⟨⟨fun _ hsame => h ((hsame d).1 hnew), fun _ => rfl⟩, by simp, fun x hx => ?_⟩
    dsimp only at hx
    rw [List.count_append, List.count_singleton] at hx
    split at hx
    · -- the new dot was not there, so it stands there once
      rename_i hxd
      obtain rfl := eq_of_beq hxd
      rw [List.count_eq_zero_of_not_mem h] at hx
      exact absurd hx (Nat.lt_irrefl 1)
    · exact hx

theorem edits_delete (l : Location) (d : Dot) : l.Edits d (l.delete d) where
  changed_iff := by
    rw [delete, contains_iff]
    constructor
    · intro h hsame
      exact (mem_delete.1 ((hsame d).2 h)).1 rfl
    · intro hne
      by_contra h
      refine hne fun x => ⟨fun hx => (mem_delete.1 hx).2, fun hx => mem_delete.2 ⟨?_, hx⟩⟩
      rintro rfl
      exact h hx
  others_eq := by simp [delete, List.filter_filter]
  repeated x hx := Nat.lt_of_lt_of_le hx (List.filter_sublist.count_le x)

/-! ### All laws -/

/-- The algebra of locations. Intersection and difference share out the positions of a location. To
be the same place is an equivalence; it means that neither location has a dot that the other lacks,
and that each dot is in both or in none, and it does not heed a reversal, a copy or the addition of
a dot that is there. The selections take the same places to the same places. An addition inserts its
dot into the set and a deletion removes it, both without touching the other dots or repeating any,
and both answer whether the set changed. -/
theorem set_algebra :
    (∀ l other : Location, l.SharesOut other (l.intersection other) (l.difference other)) ∧
    (Equivalence fun l other : Location => l.sameDots other = true) ∧
    (∀ l other : Location,
      (l.sameDots other = true ↔
        (l.difference other).isEmpty = true ∧ (other.difference l).isEmpty = true) ∧
      (l.sameDots other = true ↔ ∀ d, l.contains d = other.contains d) ∧
      l.reverse.sameDots other = l.sameDots other ∧
      l.copy.sameDots other = l.sameDots other ∧
      ∀ d ∈ l, (l.add d).2.sameDots other = l.sameDots other) ∧
    (∀ l l' other other' : Location, l.sameDots l' = true → other.sameDots other' = true →
      (l.difference other).sameDots (l'.difference other') = true ∧
      (l.intersection other).sameDots (l'.intersection other') = true) ∧
    (∀ (l : Location) (d : Dot),
      (∀ x, x ∈ (l.add d).2 ↔ x = d ∨ x ∈ l) ∧ l.Edits d (l.add d)) ∧
    ∀ (l : Location) (d : Dot),
      (∀ x, x ∈ (l.delete d).2 ↔ x ≠ d ∧ x ∈ l) ∧ l.Edits d (l.delete d) := by
  refine ⟨sharesOut, equivalence_sameDots, fun l other => ?_, fun l l' other other' hl hother => ?_,
    fun l d => ⟨fun x => mem_add, edits_add l d⟩,
    fun l d => ⟨fun x => mem_delete, edits_delete l d⟩⟩
  · exact ⟨sameDots_iff_difference, sameDots_iff_contains,
      (sameDots_reverse l).sameDots_eq other, rfl, fun d hd => by rw [add_of_mem hd]⟩
  · rw [sameDots_iff] at hl hother
    exact ⟨sameDots_iff.2 (hl.difference hother), sameDots_iff.2 (hl.intersection hother)⟩

/-- Two locations list the same dots in another order and more often; what they lack and what they
share of others is the same place, and so is the first with a dot added that it has. -/
theorem set_algebra_disordered :
    let l : Location := ⟨[⟨2, 0⟩, ⟨0, 0⟩, ⟨2, 0⟩, ⟨1, 0⟩]⟩
    let l' : Location := ⟨[⟨0, 0⟩, ⟨1, 0⟩, ⟨2, 0⟩]⟩
    let other : Location := ⟨[⟨1, 0⟩, ⟨9, 9⟩, ⟨1, 0⟩]⟩
    let other' : Location := ⟨[⟨9, 9⟩, ⟨1, 0⟩]⟩
    (l.sameDots l' = true ∧ other.sameDots other' = true ∧ (⟨2, 0⟩ : Dot) ∈ l) ∧
      (l.difference other).dots = [⟨2, 0⟩, ⟨0, 0⟩, ⟨2, 0⟩] ∧
      (l.difference other).sameDots (l'.difference other') = true ∧
      (l.intersection other).sameDots (l'.intersection other') = true ∧
      (l.add ⟨2, 0⟩).2.sameDots l' = l.sameDots l' := by
  intro l l' other other'
  have hl : l.sameDots l' = true := rfl
  have hother : other.sameDots other' = true := rfl
  have hmem : (⟨2, 0⟩ : Dot) ∈ l := by decide
  obtain ⟨-, -, hsame, hselect, -⟩ := set_algebra
  obtain ⟨hdifference, hintersection⟩ := hselect l l' other other' hl hother
  exact ⟨⟨hl, hother, hmem⟩, rfl, hdifference, hintersection, (hsame l l').2.2.2.2 _ hmem⟩

end ClaimGrid.Location
