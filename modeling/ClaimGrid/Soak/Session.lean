import ClaimGrid.Soak.Walker

/-!
# Soak sessions

A soak session lets walkers walk through a world in rounds while an observer counts the events by
kind. It ends when the signal fires under which the world was started; the walkers then leave, and
nothing must be left behind.

## Main definitions

* `EventCounts`: the number of events of every kind.
* `SoakPlan`: the settings, the number of walkers and the length of a session.
* `Soak`: a session between two rounds.
* `Soak.begin`, `Soak.round`, `Soak.finish`: its beginning, a step of every walker, and its end.
-/

namespace ClaimGrid

/-- The number of events of every kind. -/
structure EventCounts where
  /-- Objects that entered. -/
  created : Nat := 0
  /-- Objects that moved. -/
  updated : Nat := 0
  /-- Objects that left. -/
  deleted : Nat := 0
  /-- Objects that were looked up. -/
  checked : Nat := 0
  /-- Calls that failed. -/
  failed : Nat := 0
  deriving DecidableEq

namespace EventCounts

/-- The number of events of one kind. -/
def count (c : EventCounts) : EventKind → Nat
  | .created => c.created
  | .updated => c.updated
  | .deleted => c.deleted
  | .checked => c.checked
  | .error => c.failed

/-- One more event of a kind. -/
def add (c : EventCounts) : EventKind → EventCounts
  | .created => { c with created := c.created + 1 }
  | .updated => { c with updated := c.updated + 1 }
  | .deleted => { c with deleted := c.deleted + 1 }
  | .checked => { c with checked := c.checked + 1 }
  | .error => { c with failed := c.failed + 1 }

theorem count_add (c : EventCounts) (k k' : EventKind) :
    (c.add k).count k' = c.count k' + if k = k' then 1 else 0 := by
  cases k <;> cases k' <;> rfl

end EventCounts

/-- What a session is asked to do. -/
structure SoakPlan where
  /-- The settings of the world. -/
  settings : WorldSettings
  /-- The number of walkers. -/
  movers : Nat
  /-- The length of the session in seconds. -/
  seconds : Nat

/-- A session between two rounds. -/
structure Soak where
  /-- The world. -/
  world : World Nat
  /-- The walkers that found a dot to start on. -/
  walkers : List Walker
  /-- The subscription of the observer. -/
  observer : SubscriptionId
  /-- The number of steps taken. -/
  moves : Nat := 0
  /-- The number of steps refused. -/
  blocked : Nat := 0
  /-- The events the observer has seen. -/
  seen : EventCounts := {}

namespace Soak

/-- The number of events that the output of the observer holds. -/
def observerCapacity : Nat := 1024

/-- The signal that ends a session. -/
def signal : SignalId := 0

/-- The observer counts the events that have reached it. -/
def observe (s : Soak) : Soak :=
  let r := s.world.feed.receiveAll s.observer
  { s with
    world := { s.world with feed := r.2 }
    seen := (r.1.getD []).foldl (fun c e => c.add e.kind) s.seen }

/-- A walker enters the session, if it finds a dot to start on. -/
def enroll (s : Soak) (id : Nat) : Soak :=
  let r := Walker.enter s.world id
  { s with world := r.2, walkers := s.walkers ++ r.1.toList }.observe

/-- The session before its first round. -/
def begin (p : SoakPlan) : Except WorldError Soak :=
  match World.make p.settings with
  | .error e => .error e
  | .ok w =>
    let watched := (w.feed.start signal).subscribe signal observerCapacity
    .ok ((List.range p.movers).foldl enroll
      { world := { w with feed := watched.2 }, walkers := [], observer := watched.1 })

/-- One walker takes its step. -/
def advance (s : Soak) (k : Walker) : Soak :=
  let r := k.step s.world
  { s with
    world := r.2.2
    walkers := s.walkers ++ [r.2.1]
    moves := s.moves + if r.1 = WalkOutcome.moved then 1 else 0
    blocked := s.blocked + if r.1 = WalkOutcome.blocked then 1 else 0 }.observe

/-- Every walker takes one step. -/
def round (s : Soak) : Soak := s.walkers.foldl advance { s with walkers := [] }

/-- The session after a number of rounds. -/
def rounds : Nat → Soak → Soak
  | 0, s => s
  | n + 1, s => rounds n s.round

/-- The signal fires, the observer reads what it was sent, and the walkers leave. -/
def finish (s : Soak) : Soak :=
  let s := { s with world := { s.world with feed := s.world.feed.fire signal } }.observe
  { s with world := s.walkers.foldl Walker.leave s.world, walkers := [] }

/-- Whether every object on the board claims one dot, as far as their numbers tell. -/
def balanced (s : Soak) : Bool := s.world.stats.objects = s.world.stats.occupiedDots

end Soak

end ClaimGrid
