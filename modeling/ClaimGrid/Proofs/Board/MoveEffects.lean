import ClaimGrid.Proofs.Board.Flaws
import ClaimGrid.Proofs.Board.Moves

/-!
# What a move changes

The object of a move is on the board, and its new location has dots, all of them inside the area.
Then the two moves are determined by three questions about each dot: is it in the old location, is
it in the new one, and who claims it. Nothing is asked of the old location, which may name dots that
the object does not have, and dots twice.

## Main results

* `Board.owner?_reached`: the owners after a best-effort move.
* `Board.update_eq_ok_iff`, `Board.updateAvailable_eq_error_iff`: when a move is granted, and when
  it is not.
* `Board.moves_exactly`: when each move is granted, what it answers, and who claims which dot after.
-/

namespace ClaimGrid.Board

variable {α : Type} {b : Board α} {o : α} {l old new : Location}

theorem checkLocation_of_inside (hl : l ≠ .empty) (hinside : ∀ d ∈ l, b.area.contains d = true) :
    b.checkLocation l = .ok () := by
  refine checkLocation_of_not_flaw (not_or.2 ⟨hl, ?_⟩)
  rintro ⟨d, hd, houtside⟩
  simp [hinside d hd] at houtside

/-- Nothing can be had if all of the new location is claimed and nothing of it was there before. -/
theorem isEmpty_reach_iff :
    (b.reach old new).isEmpty = true ↔ ∀ d ∈ new, d ∉ old ∧ b.owner? d ≠ none := by
  rw [Location.isEmpty, List.isEmpty_iff, List.eq_nil_iff_forall_not_mem]
  refine forall_congr' fun d => ?_
  rw [← Location.mem_def, mem_reach, not_and, not_or]

variable [DecidableEq α]

/-- Neither move enters an object into the registry, or strikes one from it. -/
theorem objects_move (b : Board α) (o : α) (old new : Location) :
    (b.update o old new).2.objects = b.objects ∧
      (b.updateAvailable o old new).2.objects = b.objects := by
  rw [update_eq, updateAvailable_eq]
  cases b.checkLocation new with
  | error e => exact ⟨rfl, rfl⟩
  | ok u =>
    constructor
    · dsimp only
      split_ifs <;> rfl
    · dsimp only
      split_ifs <;> rfl

/-- Who claims a dot after a best-effort move, told by the location that was asked for. -/
theorem owner?_reached {b' : Board α} (h : Exchange o old (b.reach old new) b b') (d : Dot) :
    b'.owner? d =
      if d ∈ new ∧ d ∉ old ∧ b.owner? d = none then some o
      else if d ∈ old ∧ d ∉ new ∧ b.owner? d = some o then none
      else b.owner? d := by
  rw [h.owner?_eq]
  by_cases hnew : d ∈ new <;> by_cases hold : d ∈ old <;> simp [mem_reach, hnew, hold]

/-! ### When the moves are granted -/

theorem update_eq_ok_iff (ho : o ∈ b.objects) (hcheck : b.checkLocation new = .ok ()) :
    (b.update o old new).1 = .ok () ↔ ∀ d ∈ new, d ∉ old → b.owner? d = none := by
  rw [update_of_listed ho hcheck, ← isFree_difference_iff]
  split_ifs with hfree <;> simp [hfree]

theorem update_of_ne_ok (ho : o ∈ b.objects) (hcheck : b.checkLocation new = .ok ())
    (h : (b.update o old new).1 ≠ .ok ()) :
    b.update o old new = (.error .locationOccupied, b) := by
  rw [update_of_listed ho hcheck] at h ⊢
  split_ifs at h ⊢
  · exact absurd rfl h
  · rfl

theorem updateAvailable_eq_error_iff (ho : o ∈ b.objects)
    (hcheck : b.checkLocation new = .ok ()) :
    (b.updateAvailable o old new).1 = .error .noDotsAvailable ↔
      (∀ d ∈ new, d ∉ old) ∧ ∀ d ∈ new, ∃ p, b.owner? d = some p := by
  rw [updateAvailable_of_listed ho hcheck, ← forall₂_and]
  simp only [← Option.ne_none_iff_exists', ← isEmpty_reach_iff]
  split_ifs with hempty <;> simp [hempty]

theorem updateAvailable_cases (ho : o ∈ b.objects) (hcheck : b.checkLocation new = .ok ()) :
    b.updateAvailable o old new = (.error .noDotsAvailable, b) ∨
      (b.updateAvailable o old new).1 = .ok (b.reach old new) := by
  rw [updateAvailable_of_listed ho hcheck]
  split_ifs
  · exact .inl rfl
  · exact .inr rfl

/-- The effect of both moves, for an object on the board, whatever old location it names, and a new
location that has dots, all inside the area. The strict move is granted exactly if every added dot
is free. The best-effort move is refused exactly if all of the new location is claimed and none of
it is old, and otherwise answers those dots of it that are old or free, in order and with their
repeats. The object gets what a move adds, what it leaves and claimed is free, and every other dot
keeps its owner. A refused move changes nothing, and no move changes the registry. -/
theorem moves_exactly (b : Board α) {o : α} (old : Location) {new : Location} (ho : o ∈ b.objects)
    (hnew : new ≠ .empty) (hinside : ∀ d ∈ new, b.area.contains d = true) :
    (((b.update o old new).1 = .ok () ↔ ∀ d ∈ new, d ∉ old → b.owner? d = none) ∧
      ((b.update o old new).1 = .ok () → ∀ d, (b.update o old new).2.owner? d =
        if d ∈ new ∧ d ∉ old then some o
        else if d ∈ old ∧ d ∉ new ∧ b.owner? d = some o then none
        else b.owner? d) ∧
      ((b.update o old new).1 ≠ .ok () →
        b.update o old new = (.error .locationOccupied, b))) ∧
    (((b.updateAvailable o old new).1 = .error .noDotsAvailable ↔
        (∀ d ∈ new, d ∉ old) ∧ ∀ d ∈ new, ∃ p, b.owner? d = some p) ∧
      ((b.updateAvailable o old new).1 ≠ .error .noDotsAvailable →
        (b.updateAvailable o old new).1 =
          .ok ⟨new.dots.filter fun d => d ∈ old || (b.owner? d).isNone⟩ ∧
        ∀ d, (b.updateAvailable o old new).2.owner? d =
          if d ∈ new ∧ d ∉ old ∧ b.owner? d = none then some o
          else if d ∈ old ∧ d ∉ new ∧ b.owner? d = some o then none
          else b.owner? d) ∧
      ((b.updateAvailable o old new).1 = .error .noDotsAvailable →
        (b.updateAvailable o old new).2 = b)) ∧
    (b.update o old new).2.objects = b.objects ∧
      (b.updateAvailable o old new).2.objects = b.objects := by
  have hcheck := checkLocation_of_inside hnew hinside
  have hcases : b.updateAvailable o old new = (.error .noDotsAvailable, b) ∨
      (b.updateAvailable o old new).1 = .ok (b.reach old new) := updateAvailable_cases ho hcheck
  refine ⟨⟨update_eq_ok_iff ho hcheck, fun h => (exchange_of_update_eq_ok h).owner?_eq,
    update_of_ne_ok ho hcheck⟩, ⟨updateAvailable_eq_error_iff ho hcheck, fun h => ?_, fun h => ?_⟩,
    objects_move b o old new⟩
  · have hok := hcases.resolve_left fun hrefused => h (congrArg Prod.fst hrefused)
    exact ⟨hok, owner?_reached (exchange_of_updateAvailable_eq_ok hok)⟩
  · exact congrArg Prod.snd (hcases.resolve_right (by simp [h]))

/-- An object with two dots says that it has only one of them, and another one that it does not
have. It asks for the dot of a neighbour and, twice, for a free one: the strict move is refused, and
the best-effort move takes the free dot and leaves the dot that was not named with the object. -/
theorem moves_exactly_beside_neighbour :
    ∃ b : Board Nat, Reachable ⟨4, 4, by decide, by decide⟩ {} b ∧ 0 ∈ b.objects ∧
      let old : Location := ⟨[⟨1, 0⟩, ⟨3, 3⟩, ⟨1, 0⟩]⟩
      let new : Location := ⟨[⟨0, 1⟩, ⟨2, 0⟩, ⟨0, 1⟩]⟩
      b.update 0 old new = (.error .locationOccupied, b) ∧
        (b.updateAvailable 0 old new).1 = .ok ⟨[⟨0, 1⟩, ⟨0, 1⟩]⟩ ∧
        (b.updateAvailable 0 old new).2.owner? ⟨0, 1⟩ = some 0 ∧
        (b.updateAvailable 0 old new).2.owner? ⟨1, 0⟩ = none ∧
        (b.updateAvailable 0 old new).2.owner? ⟨0, 0⟩ = some 0 ∧
        (b.updateAvailable 0 old new).2.owner? ⟨2, 0⟩ = some 1 ∧
        (b.updateAvailable 0 old new).2.objects = [0, 1] := by
  have hfirst : Reachable ⟨4, 4, by decide, by decide⟩ {} _ :=
    (Reachable.start (α := Nat) rfl).step (.create 0 ⟨[⟨0, 0⟩, ⟨1, 0⟩]⟩)
  have hsecond := hfirst.step (.create 1 (.ofDot ⟨2, 0⟩))
  refine ⟨_, hsecond, isRegistered_iff.1 rfl, ?_⟩
  intro old new
  have hnew : new ≠ .empty := by simp [new, Location.empty]
  have hmoves {b : Board Nat} (_ : Reachable ⟨4, 4, by decide, by decide⟩ {} b)
      (ho : b.isRegistered 0 = true) (hinside : ∀ d ∈ new, b.area.contains d = true) :=
    moves_exactly b old (isRegistered_iff.1 ho) hnew hinside
  obtain ⟨⟨-, -, hrefused⟩, ⟨-, hgranted, -⟩, -, hobjects⟩ := hmoves hsecond rfl (by decide)
  obtain ⟨hanswer, howner⟩ := hgranted nofun
  refine ⟨hrefused nofun, hanswer, ?_⟩
  rw [howner, howner, howner, howner]
  exact ⟨rfl, rfl, rfl, rfl, hobjects⟩

end ClaimGrid.Board
