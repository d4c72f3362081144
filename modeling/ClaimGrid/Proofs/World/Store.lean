import ClaimGrid.Board.Call
import ClaimGrid.Proofs.World.Outcome

/-!
# Reporting does not reach the board

A world asks its board for nothing but what it is asked itself. Whatever is started, closed, watched
or read in between, and whatever becomes of the events, the board of a world is a bare board that
was given the same calls, and a call to the world answers what the bare board answers.

## Main definitions

* `WorldRequest.boardCalls`: what a call asks of the board.
* `WorldAnswer.ofReplies?`: the answer that is made of the replies of a board.
* `Board.after`: the board after a list of calls.

## Main results

* `World.board_step`, `World.answer_step`: one call.
* `World.board_run`: a run.
* `World.reports_spare_board`: every run, from settings that pass the check.
-/

namespace ClaimGrid

variable {α : Type}

/-- What a call to a world asks of the board; the counters are two calls. -/
def WorldRequest.boardCalls : WorldRequest α → List (BoardCall α)
  | perform r => [.request r]
  | objectAt d => [.objectAt d]
  | objectsAt l => [.objectsAt l]
  | locationOccupied l => [.locationOccupied l]
  | objects => [.objects]
  | isRegistered o => [.isRegistered o]
  | navigate d direction distance => [.navigate d direction distance]
  | stats => [.objectCount, .occupiedCount]
  | start _ | close | fire _ | watch .. | dropWatch _ | receive .. => []

/-- The answer of a world that is made of the replies of a board, with the number of attached
subscriptions for the counters. An error of the board is marked as one. -/
def WorldAnswer.ofReplies? (subscribers : Nat) : List (BoardReply α) → Option (WorldAnswer α)
  | [.outcome r] => some (.performed (r.mapError .board))
  | [.object found] => some (.object found)
  | [.objects found] => some (.objects found)
  | [.flag b] => some (.flag b)
  | [.dot r] => some (.dot (r.mapError .board))
  | [.count m, .count n] => some (.stats ⟨m, n, subscribers⟩)
  | _ => Option.none

/-- The board after a list of calls. -/
def Board.after [DecidableEq α] (b : Board α) (cs : List (BoardCall α)) : Board α :=
  cs.foldl (fun b c => (b.call c).2) b

theorem Board.after_append [DecidableEq α] (b : Board α) (cs cs' : List (BoardCall α)) :
    b.after (cs ++ cs') = (b.after cs).after cs' := List.foldl_append

namespace World

/-! ### One call -/

variable [DecidableEq α] (w : World α)

/-- A call does to the board what it asks of the board. -/
theorem board_step (r : WorldRequest α) : (w.step r).2.board = w.board.after r.boardCalls := by
  cases r with
  | perform r => exact board_publish _ _
  | objectAt d =>
    change (w.objectAt d).2.board = w.board
    rw [objectAt]
    cases w.board.owner? d with
    | none => rfl
    | some o => exact w.board_publish _
  | objectsAt l => exact w.board_publishAll _
  | _ => rfl

/-- A call that asks the board answers what the board replies. -/
theorem answer_step (r : WorldRequest α) (h : r.boardCalls ≠ []) :
    some (w.step r).1 =
      WorldAnswer.ofReplies? w.feed.subscriberCount (w.board.replies r.boardCalls) := by
  cases r with
  | objectAt d =>
    change some (WorldAnswer.object (w.objectAt d).1) = some (.object (w.board.owner? d))
    rw [objectAt]
    cases w.board.owner? d <;> rfl
  | start signal | close | fire signal | watch signal capacity | dropWatch id | receive id n =>
    exact absurd rfl h
  | _ => rfl

/-! ### Runs -/

/-- A run does to the board what its calls ask of the board. -/
theorem board_run (rs : List (WorldRequest α)) :
    (w.run rs).board = w.board.after (rs.flatMap WorldRequest.boardCalls) := by
  induction rs generalizing w with
  | nil => rfl
  | cons r rs ih =>
    have hrest := ih (w.step r).2
    rw [board_step, ← Board.after_append] at hrest
    exact hrest

/-- The board of a world is a bare board, made from the same area and settings and given the same
calls in the same order, whatever else is called in between; and every call that asks the board
answers what the bare board replies. -/
theorem reports_spare_board (c : WorldSettings) (hc : c.validate = .ok ()) :
    ∃ (w₀ : World α) (area : Area) (b₀ : Board α), make c = .ok w₀ ∧ c.area = .ok area ∧
      Board.make area c.board = .ok b₀ ∧
      ∀ rs : List (WorldRequest α),
        let w := w₀.run rs
        let b := b₀.after (rs.flatMap WorldRequest.boardCalls)
        w.board = b ∧
          ∀ r : WorldRequest α, r.boardCalls ≠ [] → some (w.step r).1 =
            WorldAnswer.ofReplies? w.feed.subscriberCount (b.replies r.boardCalls) := by
  obtain ⟨w₀, hmake⟩ := make_of_validate (α := α) hc
  obtain ⟨area, harea, hboard, -⟩ := parts_of_make hmake
  refine ⟨w₀, area, w₀.board, hmake, harea, hboard, fun rs => ?_⟩
  intro w b
  have hrun : w.board = b := w₀.board_run rs
  refine ⟨hrun, fun r hr => ?_⟩
  rw [← hrun]
  exact w.answer_step r hr

/-- A closed world whose events nobody hears: an error comes back marked as one of the board, and
the counters are those of the board. -/
theorem reports_spare_board_closed :
    ∃ w₀ : World Nat, make {} = .ok w₀ ∧
      let rs : List (WorldRequest Nat) := [.watch 1 1, .perform (.create 7 (.ofDot ⟨0, 0⟩)), .close,
        .fire 1, .perform (.create 8 ⟨[⟨0, 1⟩, ⟨1, 1⟩]⟩)]
      ((w₀.run rs).step (.perform (.create 9 ⟨[⟨1, 0⟩, ⟨0, 0⟩]⟩))).1 =
          .performed (.error (.board .locationOccupied)) ∧
        ((w₀.run rs).step .stats).1 = .stats ⟨2, 3, 0⟩ := by
  obtain ⟨w₀, area, b₀, hw, harea, hb, h⟩ := reports_spare_board (α := Nat) {} rfl
  refine ⟨w₀, hw, ?_⟩
  intro rs
  have hcalls : rs.flatMap WorldRequest.boardCalls = [.request (.create 7 (.ofDot ⟨0, 0⟩)),
      .request (.create 8 ⟨[⟨0, 1⟩, ⟨1, 1⟩]⟩)] := rfl
  obtain ⟨-, hanswer⟩ := h rs
  rw [hcalls] at hanswer
  have hconflict := hanswer (.perform (.create 9 ⟨[⟨1, 0⟩, ⟨0, 0⟩]⟩)) nofun
  have hcounters := hanswer .stats nofun
  have hsubscribers : (w₀.run rs).feed.subscriberCount = 0 := by
    obtain rfl := Except.ok.inj hw
    decide +kernel
  obtain rfl := Except.ok.inj harea
  obtain rfl := Except.ok.inj hb
  rw [hsubscribers] at hcounters
  exact ⟨Option.some.inj hconflict, Option.some.inj hcounters⟩

end World

end ClaimGrid
