import Mathlib.Tactic.SplitIfs
import ClaimGrid.Proofs.Board.Outcome

/-!
# Strict and best-effort requests

An object can ask for all of a location or for what is free of it, when it enters and when it moves.
The two forms claim dots in different ways, and agree: where the strict form is granted, the
best-effort form answers the whole location and leaves the same board; where the strict form is
refused, it is for the same reason, unless the reason is that dots are claimed. Then the best-effort
form answers the location without them.

## Main definitions

* `Board.Relaxes`: what the outcome of a best-effort request has to do with that of the strict one.

## Main results

* `Board.createAvailable_relaxes`, `Board.updateAvailable_relaxes`: the two pairs of requests.
* `Board.bestEffort_relaxes_strict`: both pairs, with the dots that are left out.
-/

namespace ClaimGrid.Board

variable {α : Type}

/-- The outcome of a best-effort request for `asked`, next to that of the strict request. What the
best-effort request answers when dots are claimed is `rest`. -/
structure Relaxes (strict : Except BoardError Unit × Board α) (asked : Location)
    (rest : Except BoardError Location) (relaxed : Except BoardError Location × Board α) :
    Prop where
  /-- The strict request is granted exactly if the other one can answer all that was asked for. -/
  ok_iff : strict.1 = .ok () ↔ relaxed.1 = .ok asked
  /-- Both requests then leave the same board. -/
  board_eq : strict.1 = .ok () → relaxed.2 = strict.2
  /-- What has nothing to do with claimed dots is refused in the same way, and changes the same. -/
  error_eq : ∀ e, e ≠ .locationOccupied → strict.1 = .error e →
    relaxed.1 = .error e ∧ relaxed.2 = strict.2
  /-- Claimed dots are left out. -/
  occupied : strict.1 = .error .locationOccupied → relaxed.1 = rest

namespace Relaxes

variable {b b' : Board α} {asked : Location} {rest : Except BoardError Location}

theorem of_granted : Relaxes (.ok (), b') asked rest (.ok asked, b') where
  ok_iff := iff_of_true rfl rfl
  board_eq _ := rfl
  error_eq _ _ h := absurd h nofun
  occupied h := absurd h nofun

theorem of_refused {e : BoardError} (he : e ≠ .locationOccupied) :
    Relaxes (.error e, b) asked rest (.error e, b) where
  ok_iff := iff_of_false nofun nofun
  board_eq h := absurd h nofun
  error_eq _ _ h := ⟨congrArg Except.error (Except.error.inj h), rfl⟩
  occupied h := absurd (Except.error.inj h) he

theorem of_occupied (hrest : rest ≠ .ok asked) :
    Relaxes (.error .locationOccupied, b) asked rest (rest, b') where
  ok_iff := iff_of_false nofun hrest
  board_eq h := absurd h nofun
  error_eq _ he h := absurd (Except.error.inj h).symm he
  occupied _ := rfl

end Relaxes

variable {b : Board α} {l : Location}

/-- A location is checked before any claim is looked at. -/
theorem ne_locationOccupied_of_checkLocation {e : BoardError} (h : b.checkLocation l = .error e) :
    e ≠ .locationOccupied := by
  rintro rfl
  rw [checkLocation] at h
  split_ifs at h <;> cases h

/-! ### The two pairs of requests -/

variable [DecidableEq α]

theorem createAvailable_relaxes (b : Board α) (o : α) (l : Location) :
    Relaxes (b.create o l) l (.ok (b.freePart l)) (b.createAvailable o l) := by
  rw [create_eq, createAvailable_eq]
  cases hcheck : b.checkLocation l with
  | error e => exact .of_refused (ne_locationOccupied_of_checkLocation hcheck)
  | ok u =>
    dsimp only
    split_ifs with hreg hfree
    · exact .of_refused (by simp)
    · rw [freePart_eq_self_iff.2 hfree]
      exact .of_granted
    · exact .of_occupied (fun h => hfree (freePart_eq_self_iff.1 (Except.ok.inj h)))

theorem updateAvailable_relaxes (b : Board α) (o : α) (old new : Location) :
    Relaxes (b.update o old new) new
      (if (b.reach old new).isEmpty then .error .noDotsAvailable else .ok (b.reach old new))
      (b.updateAvailable o old new) := by
  rw [update_eq, updateAvailable_eq]
  cases hcheck : b.checkLocation new with
  | error e => exact .of_refused (ne_locationOccupied_of_checkLocation hcheck)
  | ok u =>
    dsimp only
    by_cases hreg : b.isRegistered o = true
    · rw [if_pos hreg, if_pos hreg]
      by_cases hfree : b.IsFree (new.difference old)
      · -- all of the new location can be had, and it has dots
        have hreach := reach_eq_self_iff.2 hfree
        rw [if_pos hfree, hreach, isEmpty_of_checkLocation hcheck, freePart_eq_self_iff.2 hfree]
        exact .of_granted
      · have hreach : b.reach old new ≠ new := fun h => hfree (reach_eq_self_iff.1 h)
        rw [if_neg hfree]
        split_ifs
        · exact .of_occupied (by simp)
        · exact .of_occupied (fun h => hreach (Except.ok.inj h))
    · rw [if_neg hreg, if_neg hreg]
      exact .of_refused (by simp)

/-- On every board the best-effort requests relax the strict ones. An object that enters is answered
the dots of its location that nobody claims; an object that moves, those of its new location that
are in the old one or that nobody claims, unless there are none. Both keep order and repeats. -/
theorem bestEffort_relaxes_strict (b : Board α) (o : α) (l old new : Location) :
    Relaxes (b.create o l) l (.ok ⟨l.dots.filter fun d => (b.owner? d).isNone⟩)
      (b.createAvailable o l) ∧
    let remaining : Location := ⟨new.dots.filter fun d => d ∈ old || (b.owner? d).isNone⟩
    Relaxes (b.update o old new) new
      (if remaining.isEmpty then .error .noDotsAvailable else .ok remaining)
      (b.updateAvailable o old new) :=
  ⟨createAvailable_relaxes b o l, updateAvailable_relaxes b o old new⟩

end ClaimGrid.Board
