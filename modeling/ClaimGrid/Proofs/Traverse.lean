import Mathlib.Data.List.Forall2

/-!
# Computations that may give up

A computation whose fault is forgotten, and a computation that is carried out for every item of a
list.

## Main results

* `toOption_eq_some_iff`: a computation with its fault forgotten answers what it answered.
* `mapM_eq_some_iff`: a computation answers for a list exactly when it does for every item.
* `mapM_eq_some_map`, `mapM_eq_some_iff_eq_map`: the answers or the items, if one determines the
  other.
-/

namespace ClaimGrid

theorem toOption_eq_some_iff {ε β : Type} {e : Except ε β} {b : β} :
    e.toOption = some b ↔ e = .ok b := by
  cases e with
  | error e => exact ⟨nofun, nofun⟩
  | ok b' => exact ⟨fun h => congrArg Except.ok (Option.some.inj h), fun h => by rw [h]; rfl⟩

variable {β γ : Type} {f : β → Option γ} {l : List β}

/-- A computation along a list answers exactly when it does for every item. -/
theorem mapM_eq_some_iff {l' : List γ} :
    l.mapM f = some l' ↔ List.Forall₂ (fun x y => f x = some y) l l' := by
  induction l generalizing l' with
  | nil =>
    rw [List.mapM_nil, List.forall₂_nil_left_iff]
    exact ⟨fun h => (Option.some.inj h).symm, fun h => congrArg some h.symm⟩
  | cons x l ih =>
    simp only [List.mapM_cons, Option.bind_eq_bind, Option.bind_eq_some_iff, Option.pure_def,
      Option.some.injEq, ih, List.forall₂_cons_left_iff]
    grind

/-- A computation that never gives up on an item does not on the list. -/
theorem mapM_eq_some_map {g : β → γ} (h : ∀ x ∈ l, f x = some (g x)) :
    l.mapM f = some (l.map g) := by
  rw [mapM_eq_some_iff, List.forall₂_map_right_iff, List.forall₂_same]
  exact h

/-- Where an answer has one source only, so does a list of answers. -/
theorem mapM_eq_some_iff_eq_map {g : γ → β} (h : ∀ x y, f x = some y ↔ x = g y) {l' : List γ} :
    l.mapM f = some l' ↔ l = l'.map g := by
  simp only [mapM_eq_some_iff, h, ← List.forall₂_map_right_iff, List.forall₂_eq_eq_eq]

end ClaimGrid
