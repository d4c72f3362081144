import ClaimGrid.Proofs.Board.Step

/-!
# Refused requests

A refused request leaves the claims and the registry as they were, and the board as a whole unless a
search ran out of candidates. Such idle requests can be struck from a run: what is left gets the
answers that it got among them.

## Main definitions

* `Board.idles`: an answer that refuses a request for another reason than an exhausted budget.
* `Board.trace`: the answers to a list of requests, each with the board after it.
* `Board.effective`: the requests of a run that are not idle.

## Main results

* `Board.step_of_error`: what a refused request leaves.
* `Board.trace_effective`, `Board.run_effective`: a run without its idle requests.
* `Board.refused_steps_idle`: both for every board, request and run.
-/

namespace ClaimGrid.Board

variable {α : Type} [DecidableEq α]

/-- Whether an answer refuses a request, and not because a search ran out of candidates. -/
def idles : Except BoardError Answer → Bool
  | .ok _ | .error (.retriesExhausted _) => false
  | .error _ => true

/-- The answers to a list of requests, each with the board after it. -/
def trace (b : Board α) : List (BoardRequest α) → List (Except BoardError Answer × Board α)
  | [] => []
  | r :: rs => b.step r :: trace (b.step r).2 rs

/-- The requests of a run that are not idle. -/
def effective (b : Board α) : List (BoardRequest α) → List (BoardRequest α)
  | [] => []
  | r :: rs =>
    if idles (b.step r).1 then effective (b.step r).2 rs else r :: effective (b.step r).2 rs

theorem idles_iff {answer : Except BoardError Answer} :
    idles answer = true ↔ ∃ e, answer = .error e ∧ ∀ n, e ≠ .retriesExhausted n := by
  constructor
  · intro h
    match answer with
    | .ok _ | .error (.retriesExhausted _) => exact absurd h Bool.false_ne_true
    | .error (.grid _) | .error .emptyLocation | .error (.locationOutOfArea _)
    | .error .locationOccupied | .error .noDotsAvailable | .error .objectAlreadyRegistered
    | .error .objectNotRegistered | .error (.storage _) | .error (.invalidSettings _) =>
      exact ⟨_, rfl, nofun⟩
  · rintro ⟨e, rfl, he⟩
    cases e with
    | retriesExhausted n => exact absurd rfl (he n)
    | _ => rfl

/-! ### One request -/

/-- A refused request moves the word stream at most, and only where the budget is exhausted. -/
theorem step_of_error {b : Board α} {r : BoardRequest α} {e : BoardError}
    (h : (b.step r).1 = .error e) :
    ∃ s, (b.step r).2 = b.seek s ∧ (s = b.stream ∨ ∃ n, e = .retriesExhausted n) := by
  rcases step_cases b r with ⟨e', s, hstep, hs⟩ | ⟨answer, hanswer, -⟩
  · rw [hstep] at h ⊢
    obtain rfl : e' = e := Except.error.inj h
    exact ⟨s, rfl, hs⟩
  · rw [h] at hanswer
    exact absurd hanswer nofun

theorem step_of_idles {b : Board α} {r : BoardRequest α} (h : idles (b.step r).1 = true) :
    (b.step r).2 = b := by
  obtain ⟨e, he, hn⟩ := idles_iff.1 h
  obtain ⟨s, hs, rfl | ⟨n, rfl⟩⟩ := step_of_error he
  · exact hs
  · exact absurd rfl (hn n)

/-! ### Runs -/

/-- Without its idle requests, a run has the same answers and boards, in the same order. -/
theorem trace_effective (b : Board α) (rs : List (BoardRequest α)) :
    b.trace (b.effective rs) = (b.trace rs).filter fun outcome => !idles outcome.1 := by
  induction rs generalizing b with
  | nil => rfl
  | cons r rs ih =>
    rw [effective, trace]
    by_cases h : idles (b.step r).1 = true
    · rw [if_pos h, List.filter_cons_of_neg (by simp [h]), ← ih, step_of_idles h]
    · rw [if_neg h, List.filter_cons_of_pos (by simp [h]), ← ih, trace]

theorem run_effective (b : Board α) (rs : List (BoardRequest α)) :
    b.run (b.effective rs) = b.run rs := by
  induction rs generalizing b with
  | nil => rfl
  | cons r rs ih =>
    change _ = (b.step r).2.run rs
    rw [effective, ← ih]
    by_cases h : idles (b.step r).1 = true
    · rw [if_pos h, step_of_idles h]
    · rw [if_neg h]
      rfl

/-- A refused request leaves claims and registry, and leaves the board unless a search ran out of
candidates. So a run without its idle requests has the remaining answers, with the same boards. -/
theorem refused_steps_idle (b : Board α) :
    (∀ r e, (b.step r).1 = .error e →
      (b.step r).2.occupancy = b.occupancy ∧ (b.step r).2.objects = b.objects ∧
        ((∀ n, e ≠ .retriesExhausted n) → (b.step r).2 = b)) ∧
      ∀ rs, b.trace (b.effective rs) = (b.trace rs).filter (fun outcome => !idles outcome.1) ∧
        b.run (b.effective rs) = b.run rs := by
  refine ⟨fun r e he => ?_, fun rs => ⟨trace_effective b rs, run_effective b rs⟩⟩
  obtain ⟨s, hs, hstream⟩ := step_of_error he
  refine ⟨by rw [hs]; rfl, by rw [hs]; rfl, fun hn => ?_⟩
  exact step_of_idles (idles_iff.2 ⟨e, he, hn⟩)

/-- A move of the second of two objects onto the dot of the first is refused and leaves both. -/
theorem refused_steps_idle_noDotsAvailable :
    ∃ b : Board Nat, Board.make ⟨4, 4, by decide, by decide⟩ {} = .ok b ∧
      let two := b.run [.create 0 (.ofDot ⟨0, 0⟩), .create 1 (.ofDot ⟨1, 1⟩)]
      let r : BoardRequest Nat := .updateAvailable 1 (.ofDot ⟨1, 1⟩) (.ofDot ⟨0, 0⟩)
      two.objects = [0, 1] ∧ (two.step r).1 = .error .noDotsAvailable ∧
        (two.step r).2.objects = two.objects ∧ (two.step r).2 = two := by
  refine ⟨_, rfl, ?_⟩
  intro two r
  have hstep : (two.step r).1 = .error .noDotsAvailable := rfl
  obtain ⟨-, hobjects, hboard⟩ := (refused_steps_idle two).1 r _ hstep
  exact ⟨rfl, hstep, hobjects, hboard nofun⟩

end ClaimGrid.Board
