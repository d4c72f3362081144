import Mathlib.Logic.Function.Basic

/-!
# Lists of keys with values

A lookup in a list of pairs finds the value of the first pair with the key. When the pairs are the
things of a list under their names, and different things have different names, it finds what belongs
to the thing, if the thing is listed.

## Main results

* `lookup_eq_head?_filter`: a lookup finds the first of the values.
* `lookup_eq_none_iff_notMem`: it finds none for keys that are not listed.
* `lookup_map_of_injective`: a lookup by the name of a thing.
-/

namespace ClaimGrid

section

variable {κ β : Type} [BEq κ] [LawfulBEq κ] [DecidableEq κ]

theorem lookup_cons_eq_ite (k : κ) (p : κ × β) (pairs : List (κ × β)) :
    (p :: pairs).lookup k = if p.1 = k then some p.2 else pairs.lookup k := by
  obtain ⟨k', a⟩ := p
  rw [List.lookup_cons]
  by_cases hk : k' = k
  · rw [if_pos hk, hk, beq_self_eq_true]
  · rw [if_neg hk, beq_false_of_ne (Ne.symm hk)]

theorem lookup_eq_head?_filter (k : κ) : (pairs : List (κ × β)) →
    pairs.lookup k = ((pairs.filter fun p => p.1 = k).head?).map Prod.snd
  | [] => rfl
  | p :: pairs => by
    rw [lookup_cons_eq_ite, lookup_eq_head?_filter k pairs, List.filter_cons]
    by_cases hk : p.1 = k <;> simp [hk]

omit [DecidableEq κ] in
theorem lookup_eq_none_iff_notMem {k : κ} {pairs : List (κ × β)} :
    pairs.lookup k = none ↔ k ∉ pairs.map Prod.fst := by
  simp only [List.lookup_eq_none_iff, bne_iff_ne, List.mem_map, not_exists, not_and]
  exact ⟨fun h p hp he => h p hp he.symm, fun h p hp he => h p hp he.symm⟩

end

/-- What is listed under the name of one thing, when different things have different names. -/
theorem lookup_map_of_injective {κ β : Type} [DecidableEq κ] {name : κ → String}
    (hname : Function.Injective name) (f : κ → β) (l : List κ) (k : κ) :
    (l.map fun x => (name x, f x)).lookup (name k) = if k ∈ l then some (f k) else none := by
  induction l with
  | nil => rfl
  | cons x l ih =>
    rw [List.map_cons, lookup_cons_eq_ite, ih]
    by_cases h : x = k
    · rw [if_pos (congrArg name h), if_pos (h ▸ List.mem_cons_self), h]
    · rw [if_neg (hname.ne h)]
      simp only [List.mem_cons, Ne.symm h, false_or]

end ClaimGrid
