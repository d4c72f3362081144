import ClaimGrid.Proofs.Board.Step

/-!
# Moves that name dots of others

A move takes the dots that its new location has beyond the old one, and nothing else. The dots of
both locations stay with whoever claims them: the caller is believed to have them. So a move ends
with the new location in one hand exactly if the object claimed the shared dots before.

## Main results

* `Board.owner?_of_move`: who claims the dots of a location that an object has moved to.
* `Board.move_keeps_other_owner`: a granted move to a dot that is, and stays, another's.
-/

namespace ClaimGrid.Board

variable {α : Type} [DecidableEq α] {b b' : Board α} {o : α} {old new : Location}

theorem exchange_of_update_eq_ok (h : (b.update o old new).1 = .ok ()) :
    Exchange o old new b (b.update o old new).2 :=
  (granted_of_ok (r := .update o old new) (withoutLocation_of_ok h)).exchange

theorem exchange_of_updateAvailable_eq_ok {achieved : Location}
    (h : (b.updateAvailable o old new).1 = .ok achieved) :
    Exchange o old achieved b (b.updateAvailable o old new).2 :=
  (granted_of_ok (r := .updateAvailable o old new) (withLocation_of_ok h)).exchange

/-- All of the new location is the object's exactly if the object claimed what it did not take. -/
theorem Exchange.forall_owner?_iff (h : Exchange o old new b b') :
    (∀ d ∈ new, b'.owner? d = some o) ↔ ∀ d ∈ new, d ∈ old → b.owner? d = some o := by
  refine forall_congr' fun d => forall_congr' fun hd => ?_
  rw [h.owner?_of_mem hd]
  by_cases hold : d ∈ old
  · simp only [hold, if_true, forall_const]
  · simp only [hold, if_false, false_implies]

/-- After a move, strict or best-effort, the object claims the dots of its new location that the old
one lacks, and the others have the owners that they had. So it claims all of them exactly if it
claimed those others before. -/
theorem owner?_of_move (b : Board α) (o : α) (old new : Location) :
    ((b.update o old new).1 = .ok () →
      (∀ d ∈ new, (b.update o old new).2.owner? d = if d ∈ old then b.owner? d else some o) ∧
      ((∀ d ∈ new, (b.update o old new).2.owner? d = some o) ↔
        ∀ d ∈ new, d ∈ old → b.owner? d = some o)) ∧
    ∀ achieved, (b.updateAvailable o old new).1 = .ok achieved →
      (∀ d ∈ achieved,
        (b.updateAvailable o old new).2.owner? d = if d ∈ old then b.owner? d else some o) ∧
      ((∀ d ∈ achieved, (b.updateAvailable o old new).2.owner? d = some o) ↔
        ∀ d ∈ achieved, d ∈ old → b.owner? d = some o) := by
  refine ⟨fun h => ?_, fun achieved h => ?_⟩
  · have hx := exchange_of_update_eq_ok h
    exact ⟨fun d hd => hx.owner?_of_mem hd, hx.forall_owner?_iff⟩
  · have hx := exchange_of_updateAvailable_eq_ok h
    exact ⟨fun d hd => hx.owner?_of_mem hd, hx.forall_owner?_iff⟩

/-- An object that moves by one dot claims both, the one it kept and the one it took. -/
theorem owner?_of_move_by_one :
    ∃ b : Board Nat, Reachable ⟨4, 4, by decide, by decide⟩ {} b ∧
      (b.update 0 ⟨[⟨0, 0⟩, ⟨1, 0⟩]⟩ ⟨[⟨1, 0⟩, ⟨2, 0⟩]⟩).1 = .ok () ∧
      ∀ d ∈ (⟨[⟨1, 0⟩, ⟨2, 0⟩]⟩ : Location),
        (b.update 0 ⟨[⟨0, 0⟩, ⟨1, 0⟩]⟩ ⟨[⟨1, 0⟩, ⟨2, 0⟩]⟩).2.owner? d = some 0 := by
  have hstart : Board.make (α := Nat) ⟨4, 4, by decide, by decide⟩ {} = .ok _ := rfl
  have hcreate := (Reachable.start hstart).step (.create 0 ⟨[⟨0, 0⟩, ⟨1, 0⟩]⟩)
  refine ⟨_, hcreate, rfl, ?_⟩
  refine ((owner?_of_move _ 0 ⟨[⟨0, 0⟩, ⟨1, 0⟩]⟩ ⟨[⟨1, 0⟩, ⟨2, 0⟩]⟩).1 rfl).2.2 fun d hd hold => ?_
  obtain rfl : d = ⟨1, 0⟩ := by
    rcases List.mem_cons.1 hd with rfl | hd
    · rfl
    · obtain rfl := List.mem_singleton.1 hd
      exact absurd hold (by decide)
  rfl

/-- The second of two objects moves from the dot of the first to the same dot. The move is granted,
strict and best-effort alike, and the dot stays with the first. -/
theorem move_keeps_other_owner :
    ∃ b : Board Nat, Reachable ⟨4, 4, by decide, by decide⟩ {} b ∧
      (b.update 1 (.ofDot ⟨0, 0⟩) (.ofDot ⟨0, 0⟩)).1 = .ok () ∧
      (b.update 1 (.ofDot ⟨0, 0⟩) (.ofDot ⟨0, 0⟩)).2.owner? ⟨0, 0⟩ = some 0 ∧
      (b.updateAvailable 1 (.ofDot ⟨0, 0⟩) (.ofDot ⟨0, 0⟩)).1 = .ok (.ofDot ⟨0, 0⟩) ∧
      (b.updateAvailable 1 (.ofDot ⟨0, 0⟩) (.ofDot ⟨0, 0⟩)).2.owner? ⟨0, 0⟩ = some 0 := by
  have hstart : Board.make (α := Nat) ⟨4, 4, by decide, by decide⟩ {} = .ok _ := rfl
  have hfirst := (Reachable.start hstart).step (.create 0 (.ofDot ⟨0, 0⟩))
  have hsecond := hfirst.step (.create 1 (.ofDot ⟨1, 1⟩))
  exact ⟨_, hsecond, rfl, rfl, rfl, rfl⟩

end ClaimGrid.Board
