import ClaimGrid.World.Basic

/-!
# Calls to a world

Every call to a world, changes and lookups alike, as one value, so that runs of a world can be
described.

## Main definitions

* `WorldRequest`: a call with its arguments.
* `WorldAnswer`: what a call answers.
* `World.step`, `World.run`: the world after a call, and after a list of calls.
-/

namespace ClaimGrid

/-- A call to a world. -/
inductive WorldRequest (α : Type) where
  | perform (r : BoardRequest α)
  | objectAt (d : Dot)
  | objectsAt (l : Location)
  | locationOccupied (l : Location)
  | objects
  | isRegistered (o : α)
  | navigate (d : Dot) (direction : Direction) (distance : UInt8)
  | stats
  | start (signal : SignalId)
  | close
  | fire (signal : SignalId)
  | watch (signal : SignalId) (capacity : Nat)
  | dropWatch (id : SubscriptionId)
  | receive (id : SubscriptionId) (n : Nat)

/-- What a call answers. -/
inductive WorldAnswer (α : Type) where
  | performed (outcome : Except WorldError Board.Answer)
  | object (found : Option α)
  | objects (found : List α)
  | flag (b : Bool)
  | dot (outcome : Except WorldError Dot)
  | stats (counters : WorldStats)
  | watching (id : SubscriptionId)
  | received (events : Option (List (Event α) × ReadEnd))
  | none

namespace World

variable {α : Type} [DecidableEq α]

/-- The answer to a call and the world after it. -/
def step (w : World α) : WorldRequest α → WorldAnswer α × World α
  | .perform r => (.performed (w.perform r).1, (w.perform r).2)
  | .objectAt d => (.object (w.objectAt d).1, (w.objectAt d).2)
  | .objectsAt l => (.objects (w.objectsAt l).1, (w.objectsAt l).2)
  | .locationOccupied l => (.flag (w.board.locationOccupied l), w)
  | .objects => (.objects w.board.objects, w)
  | .isRegistered o => (.flag (w.board.isRegistered o), w)
  | .navigate d direction distance => (.dot (w.navigate d direction distance), w)
  | .stats => (.stats w.stats, w)
  | .start signal => (.none, { w with feed := w.feed.start signal })
  | .close => (.none, { w with feed := w.feed.close })
  | .fire signal => (.none, { w with feed := w.feed.fire signal })
  | .watch signal capacity =>
      (.watching (w.feed.subscribe signal capacity).1,
        { w with feed := (w.feed.subscribe signal capacity).2 })
  | .dropWatch id => (.none, { w with feed := w.feed.dropSubscription id })
  | .receive id n =>
      (.received (w.feed.receive id n).1, { w with feed := (w.feed.receive id n).2 })

/-- The world after a list of calls. -/
def run (w : World α) (rs : List (WorldRequest α)) : World α :=
  rs.foldl (fun w r => (w.step r).2) w

end World

end ClaimGrid
