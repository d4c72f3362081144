import ClaimGrid.Feed.Request
import ClaimGrid.Settings.Basic
import ClaimGrid.World.Event

/-!
# Worlds

A world is a board whose every call is reported to a feed. A successful change is reported by its
kind, a failed one by its error, and a lookup by every object it finds. Reporting never fails a
call: before the start an event that finds the queue full is lost, and once the feed is stopped
nothing is reported.

## Main definitions

* `World`: a board and a feed of its events.
* `World.make`: the world of given settings.
* `World.perform`: a request to the board, reported.
* `World.objectAt`, `World.objectsAt`: lookups, reported.
* `World.stats`: the counters.
-/

namespace ClaimGrid

/-- A board whose calls are reported to a feed. -/
structure World (α : Type) where
  /-- Who claims what. -/
  board : Board α
  /-- Who hears of it. -/
  feed : Feed (Event α)

/-- The counters of a world. -/
structure WorldStats where
  /-- Number of objects on the board. -/
  objects : Nat
  /-- Number of claimed dots. -/
  occupiedDots : Nat
  /-- Number of attached subscriptions. -/
  subscribers : Nat
  deriving DecidableEq

namespace World

variable {α : Type}

/-- The world of given settings, refused if one of them is out of range. -/
def make (c : WorldSettings) : Except WorldError (World α) :=
  match c.validate with
  | .error e => .error (.settings e)
  | .ok () =>
    match c.area with
    | .error e => .error (.settings e)
    | .ok area =>
      match Board.make area c.board with
      | .error e => .error (.board e)
      | .ok board =>
        match Feed.make c.feed with
        | .error e => .error (.feed e)
        | .ok feed => .ok ⟨board, feed⟩

variable (w : World α)

/-- The world after an event was offered to the feed. -/
def publish (e : Event α) : World α :=
  match w.feed.state with
  | .created => { w with feed := (w.feed.tryPublish e).2 }
  | .running => { w with feed := (w.feed.publish e).2 }
  | .stopped => w

/-- The world after events were offered to the feed one by one. -/
def publishAll (es : List (Event α)) : World α := es.foldl publish w

/-- The counters. -/
def stats : WorldStats :=
  ⟨w.board.objectCount, w.board.occupiedCount, w.feed.subscriberCount⟩

/-- A world as it is shown to a developer. -/
def outline : Outline :=
  .record "World" [("playground", w.board.outline), ("broadcaster", w.feed.outline)]

/-- Steps across the area, wrapping at the edges; not reported. -/
def navigate (d : Dot) (direction : Direction) (distance : UInt8) : Except WorldError Dot :=
  (w.board.navigate d direction distance).mapError .board

/-- The object that claims a dot, reported if there is one. -/
def objectAt (d : Dot) : Option α × World α :=
  match w.board.owner? d with
  | none => (none, w)
  | some o => (some o, w.publish (.ofObject .checked o))

variable [DecidableEq α]

/-- The objects that claim a dot of a location, each of them reported. -/
def objectsAt (l : Location) : List α × World α :=
  let os := w.board.objectsAt l
  (os, w.publishAll (os.map (.ofObject .checked)))

/-- The event that reports the outcome of a request. -/
def reportOf {β : Type} (r : BoardRequest α) : Except BoardError β → Event α
  | .ok _ => .ofObject (.ofEffect r.effect) r.object
  | .error e => .ofError (.board e)

/-- A request to the board, reported with its outcome. -/
def perform (r : BoardRequest α) : Except WorldError Board.Answer × World α :=
  let s := w.board.step r
  (s.1.mapError .board, { w with board := s.2 }.publish (reportOf r s.1))

end World

end ClaimGrid
