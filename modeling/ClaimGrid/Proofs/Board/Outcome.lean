import ClaimGrid.Board.Moves
import ClaimGrid.Proofs.Board.Claims

/-!
# What each request comes to

The requests that name their dots, each in one equation, with the claims and releases that they are
made of carried out. Every refusal answers the board as it was: a claim that was broken off is
undone, and the registry refuses nothing that was checked before.

## Main definitions

* `Board.reach`: the dots that a best-effort move can have.

## Main results

* `Board.freePart_eq_self_iff`, `Board.reach_eq_self_iff`: when nothing of a location is left out.
* `Board.create_eq`, `Board.createAvailable_eq`, `Board.update_eq`, `Board.updateAvailable_eq`,
  `Board.delete_eq`: the equations.
* `Board.update_of_listed`, `Board.updateAvailable_of_listed`: the moves of an object that is on the
  board to a location that passes the check.
-/

namespace ClaimGrid.Board

variable {α : Type}

/-- The dots of `new` that an object which has `old` can have next: those of `old`, and those that
nobody claims. -/
def reach (b : Board α) (old new : Location) : Location :=
  ⟨new.dots.filter fun d => d ∈ old || (b.owner? d).isNone⟩

theorem mem_reach {b : Board α} {old new : Location} {d : Dot} :
    d ∈ b.reach old new ↔ d ∈ new ∧ (d ∈ old ∨ b.owner? d = none) := by
  refine List.mem_filter.trans (and_congr Iff.rfl ?_)
  rw [Bool.or_eq_true, decide_eq_true_eq, Option.isNone_iff_eq_none]

/-- Of a move, the dots that are added are free. -/
theorem isFree_difference_iff {b : Board α} {old new : Location} :
    b.IsFree (new.difference old) ↔ ∀ d ∈ new, d ∉ old → b.owner? d = none := by
  simp only [IsFree, Location.mem_difference, and_imp]

/-! ### When nothing is left out -/

theorem freePart_eq_self_iff {b : Board α} {l : Location} : b.freePart l = l ↔ b.IsFree l := by
  rw [freePart, Location.mk.injEq, List.filter_eq_self]
  simp [IsFree, Location.mem_def]

theorem reach_eq_self_iff {b : Board α} {old new : Location} :
    b.reach old new = new ↔ b.IsFree (new.difference old) := by
  rw [reach, Location.mk.injEq, List.filter_eq_self, isFree_difference_iff]
  simp [Location.mem_def, Classical.or_iff_not_imp_left]

theorem isEmpty_of_checkLocation {b : Board α} {l : Location} (h : b.checkLocation l = .ok ()) :
    l.isEmpty = false := by
  cases hl : l.isEmpty with
  | false => rfl
  | true => simp [checkLocation, hl] at h

section Requests

variable [DecidableEq α]

/-! ### The equations -/

theorem create_eq (b : Board α) (o : α) (l : Location) : b.create o l =
    match b.checkLocation l with
    | .error e => (.error e, b)
    | .ok () =>
      if b.isRegistered o then (.error .objectAlreadyRegistered, b)
      else if b.IsFree l then (.ok (), (b.occupy o l).enlist o)
      else (.error .locationOccupied, b) := by
  rw [create]
  cases b.checkLocation l with
  | error e => rfl
  | ok u =>
    simp only [claim_eq]
    split
    · rfl
    · rename_i hreg
      by_cases hfree : b.IsFree l
      · rw [if_pos hfree, if_pos hfree, if_pos rfl]
        exact register_of_not_isRegistered (b := b.occupy o l) (Bool.eq_false_iff.2 hreg) l
      · rw [if_neg hfree, if_neg hfree]
        rfl

theorem createAvailable_eq (b : Board α) (o : α) (l : Location) : b.createAvailable o l =
    match b.checkLocation l with
    | .error e => (.error e, b)
    | .ok () =>
      if b.isRegistered o then (.error .objectAlreadyRegistered, b)
      else (.ok (b.freePart l), (b.occupy o (b.freePart l)).enlist o) := by
  have hheld : (l.dots.filter fun d => (b.claimFree o l).1.contains d.key) =
      (b.freePart l).dots := by
    refine List.filter_congr fun d hd => ?_
    rw [Bool.eq_iff_iff, contains_claimFree, mem_freePart, Option.isNone_iff_eq_none]
    exact and_iff_right hd
  rw [createAvailable]
  cases b.checkLocation l with
  | error e => rfl
  | ok u =>
    simp only [hheld, claimFree_eq]
    split
    · rfl
    · rename_i hreg
      rw [register_of_not_isRegistered (b := b.occupy o (b.freePart l)) (Bool.eq_false_iff.2 hreg)]
      rfl

theorem update_eq (b : Board α) (o : α) (old new : Location) : b.update o old new =
    match b.checkLocation new with
    | .error e => (.error e, b)
    | .ok () =>
      if b.isRegistered o then
        if b.IsFree (new.difference old) then
          (.ok (), (b.occupy o (new.difference old)).release o (old.difference new))
        else (.error .locationOccupied, b)
      else (.error .objectNotRegistered, b) := by
  rw [update]
  cases b.checkLocation new with
  | error e => rfl
  | ok u =>
    simp only [claim_eq]
    split
    · by_cases hfree : b.IsFree (new.difference old)
      · rw [if_pos hfree, if_pos hfree, if_pos rfl]
      · rw [if_neg hfree, if_neg hfree]
        rfl
    · rfl

theorem updateAvailable_eq (b : Board α) (o : α) (old new : Location) :
    b.updateAvailable o old new =
      match b.checkLocation new with
      | .error e => (.error e, b)
      | .ok () =>
        if b.isRegistered o then
          if (b.reach old new).isEmpty then (.error .noDotsAvailable, b)
          else (.ok (b.reach old new),
            (b.occupy o (b.freePart (new.difference old))).release o (old.difference new))
        else (.error .objectNotRegistered, b) := by
  have hheld : (new.dots.filter fun d => old.keySet.contains d.key ||
      (b.claimFree o (new.difference old)).1.contains d.key) = (b.reach old new).dots := by
    refine List.filter_congr fun d hd => ?_
    rw [Bool.eq_iff_iff, Bool.or_eq_true, Bool.or_eq_true, Location.contains_keySet,
      contains_claimFree, mem_freePart, Location.mem_difference, decide_eq_true_eq,
      Option.isNone_iff_eq_none]
    by_cases hold : d ∈ old
    · simp only [hold, true_or]
    · simp only [hold, false_or, not_false_eq_true, and_true]
      exact and_iff_right hd
  rw [updateAvailable]
  cases b.checkLocation new with
  | error e => rfl
  | ok u =>
    simp only [hheld, claimFree_eq]
    split
    · change (if (b.reach old new).isEmpty then _ else _) = _
      split
      · rename_i hempty
        -- nothing can be had, so nothing was taken either
        have hnone : b.freePart (new.difference old) = .empty := by
          refine congrArg Location.mk (List.eq_nil_iff_forall_not_mem.2 fun d hd => ?_)
          obtain ⟨hd, hfree⟩ := mem_freePart.1 hd
          have hreach : d ∈ (b.reach old new).dots :=
            mem_reach.2 ⟨(Location.mem_difference.1 hd).1, .inr hfree⟩
          rw [List.isEmpty_iff.1 hempty] at hreach
          exact List.not_mem_nil hreach
        rw [hnone]
        rfl
      · rfl
    · rfl

theorem delete_eq (b : Board α) (o : α) (l : Location) : b.delete o l =
    if b.isRegistered o then (.ok (), (b.release o l).strike o)
    else (.error .objectNotRegistered, b) := by
  rw [delete]
  split
  · rename_i hreg
    exact unregister_of_isRegistered (b := b.release o l) hreg
  · rfl

/-! ### Moves of an object on the board -/

variable {b : Board α} {o : α} {old new : Location}

theorem update_of_listed (ho : o ∈ b.objects) (hcheck : b.checkLocation new = .ok ()) :
    b.update o old new =
      if b.IsFree (new.difference old) then
        (.ok (), (b.occupy o (new.difference old)).release o (old.difference new))
      else (.error .locationOccupied, b) := by
  rw [update_eq, hcheck]
  exact if_pos (isRegistered_iff.2 ho)

theorem updateAvailable_of_listed (ho : o ∈ b.objects) (hcheck : b.checkLocation new = .ok ()) :
    b.updateAvailable o old new =
      if (b.reach old new).isEmpty then (.error .noDotsAvailable, b)
      else (.ok (b.reach old new),
        (b.occupy o (b.freePart (new.difference old))).release o (old.difference new)) := by
  rw [updateAvailable_eq, hcheck]
  exact if_pos (isRegistered_iff.2 ho)

end Requests

end ClaimGrid.Board
