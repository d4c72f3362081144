import ClaimGrid.World.Request
import ClaimGrid.Proofs.Board.Sharding
import ClaimGrid.Proofs.Feed.Outcome

/-!
# What making a world and publishing come to

A world is made of a board and a feed that know nothing of each other. Publishing leaves the board,
and is one call to the feed, the same in every state of the feed.

## Main results

* `World.make_of_validate`, `World.parts_of_make`: making a world.
* `World.board_publish`, `World.feed_publish`: publishing.
-/

namespace ClaimGrid.World

variable {α : Type}

/-- A world is made of a board and a feed that are just made. -/
theorem parts_of_make {c : WorldSettings} {w : World α} (h : make c = .ok w) :
    ∃ area, c.area = .ok area ∧ Board.make area c.board = .ok w.board ∧
      Feed.make c.feed = .ok w.feed := by
  rw [make] at h
  split at h
  · cases h
  · split at h
    · cases h
    · rename_i area harea
      split at h
      · cases h
      · rename_i board hboard
        split at h
        · cases h
        · rename_i feed hfeed
          obtain rfl := Except.ok.inj h
          exact ⟨area, harea, hboard, hfeed⟩

/-- Settings that pass the check make a world. -/
theorem make_of_validate {c : WorldSettings} (hc : c.validate = .ok ()) :
    ∃ w : World α, make c = .ok w := by
  obtain ⟨area, harea⟩ : ∃ area, c.area = .ok area := by
    cases h : c.area with
    | ok area => exact ⟨area, rfl⟩
    | error e =>
      rw [WorldSettings.validate, h] at hc
      cases hc
  have hboard : c.board.validate = .ok () := by
    cases h : c.board.validate with
    | ok u => rfl
    | error e =>
      rw [WorldSettings.validate, harea, h] at hc
      cases hc
  have hfeed : c.feed.validate = .ok () := by
    cases h : c.feed.validate with
    | ok u => rfl
    | error e =>
      rw [WorldSettings.validate, harea, hboard, h] at hc
      cases hc
  obtain ⟨b, hb⟩ := Board.make_of_validate (α := α) area hboard
  obtain ⟨f, hf⟩ := Feed.make_of_validate (ε := Event α) hfeed
  refine ⟨⟨b, f⟩, ?_⟩
  rw [make, hc, harea]
  dsimp only
  rw [hb, hf]

/-! ### Publishing -/

theorem board_publish (w : World α) (e : Event α) : (w.publish e).board = w.board := by
  rw [publish]
  cases w.feed.state <;> rfl

theorem board_publishAll (w : World α) (es : List (Event α)) :
    (w.publishAll es).board = w.board := by
  induction es generalizing w with
  | nil => rfl
  | cons e es ih => exact (ih (w.publish e)).trans (w.board_publish e)

theorem feed_publish (w : World α) (e : Event α) :
    (w.publish e).feed = (w.feed.step (.tryPublish e)).2 := by
  rw [publish, Feed.step, Feed.tryPublish]
  cases hstate : w.feed.state with
  | created => rfl
  | running =>
    have haccept (refusal : FeedError) : w.feed.accept refusal e = (.ok (), w.feed.dispatch e) :=
      Feed.accept_of_running hstate
    dsimp only
    rw [Feed.publish, haccept, haccept]
  | stopped => rw [Feed.accept_of_stopped hstate]

theorem feed_publishAll (w : World α) (es : List (Event α)) :
    (w.publishAll es).feed = w.feed.run (es.map .tryPublish) := by
  induction es generalizing w with
  | nil => rfl
  | cons e es ih =>
    have hrest := ih (w.publish e)
    rw [feed_publish] at hrest
    exact hrest

end ClaimGrid.World
