import Mathlib.Data.List.Basic
import Mathlib.Data.List.Induction

/-!
# First mentions

`List.eraseDups` keeps an item of a list where it is mentioned first, and drops it wherever it is
mentioned again. What is kept stands in the order of the list, and selecting items and joining lists
that have none in common go through it.

## Main results

* `eraseDups_concat_of_mem`, `eraseDups_concat_of_notMem`: one more item at the end.
* `pairwise_idxOf_eraseDups`: first mentions in order.
* `eraseDups_filter`, `eraseDups_flatMap`: selections and joined lists.
-/

namespace ClaimGrid

variable {β : Type} [BEq β] [LawfulBEq β] {l : List β} {b : β}

theorem eraseDups_concat_of_mem (h : b ∈ l) : (l ++ [b]).eraseDups = l.eraseDups := by
  simp [List.eraseDups_append, List.removeAll, h]

theorem eraseDups_concat_of_notMem (h : b ∉ l) : (l ++ [b]).eraseDups = l.eraseDups ++ [b] := by
  rw [List.eraseDups_append]
  simp [List.removeAll, h, List.eraseDups_cons]

/-- First mentions stand in the order of the list. -/
theorem pairwise_idxOf_eraseDups (l : List β) :
    l.eraseDups.Pairwise fun b b' => l.idxOf b < l.idxOf b' := by
  induction l using List.reverseRecOn with
  | nil => exact List.Pairwise.nil
  | append_singleton l b ih =>
    have hold : l.eraseDups.Pairwise fun c c' => (l ++ [b]).idxOf c < (l ++ [b]).idxOf c' := by
      refine ih.imp_of_mem fun {c c'} hc hc' hlt => ?_
      rw [List.idxOf_append_of_mem (List.mem_eraseDups.1 hc),
        List.idxOf_append_of_mem (List.mem_eraseDups.1 hc')]
      exact hlt
    by_cases hb : b ∈ l
    · rw [eraseDups_concat_of_mem hb]
      exact hold
    · rw [eraseDups_concat_of_notMem hb, List.pairwise_append]
      refine ⟨hold, List.pairwise_singleton .., fun c hc b' hb' => ?_⟩
      obtain rfl := List.mem_singleton.1 hb'
      have hc := List.mem_eraseDups.1 hc
      rw [List.idxOf_append_of_mem hc, List.idxOf_append_of_notMem hb]
      exact Nat.lt_add_right _ (List.idxOf_lt_length_of_mem hc)

/-- Items that a selection leaves out do not matter for the first mentions of the others. -/
theorem eraseDups_filter (p : β → Bool) (l : List β) :
    (l.filter p).eraseDups = l.eraseDups.filter p := by
  induction l using List.reverseRecOn with
  | nil => rfl
  | append_singleton l b ih =>
    rw [List.filter_append]
    by_cases hb : b ∈ l
    · rw [eraseDups_concat_of_mem hb, ← ih]
      by_cases hp : p b = true
      · rw [List.filter_cons_of_pos hp, List.filter_nil,
          eraseDups_concat_of_mem (List.mem_filter.2 ⟨hb, hp⟩)]
      · rw [List.filter_cons_of_neg hp, List.filter_nil, List.append_nil]
    · rw [eraseDups_concat_of_notMem hb, List.filter_append, ← ih]
      by_cases hp : p b = true
      · rw [List.filter_cons_of_pos hp, List.filter_nil,
          eraseDups_concat_of_notMem fun h => hb (List.mem_filter.1 h).1]
      · rw [List.filter_cons_of_neg hp, List.filter_nil, List.append_nil, List.append_nil]

/-- Lists without common items have their first mentions apart. -/
theorem eraseDups_flatMap {ι : Type} {f : ι → List β} {is : List ι}
    (h : is.Pairwise fun i j => ∀ b ∈ f j, b ∉ f i) :
    (is.flatMap f).eraseDups = is.flatMap fun i => (f i).eraseDups := by
  induction is with
  | nil => rfl
  | cons i is ih =>
    obtain ⟨hi, his⟩ := List.pairwise_cons.1 h
    have hrest : (is.flatMap f).removeAll (f i) = is.flatMap f := by
      refine List.filter_eq_self.2 fun b hb => ?_
      obtain ⟨j, hj, hb⟩ := List.mem_flatMap.1 hb
      simpa using hi j hj b hb
    rw [List.flatMap_cons, List.flatMap_cons, List.eraseDups_append, hrest, ih his]

end ClaimGrid
