import ClaimGrid.Feed.Basic

/-!
# Lanes

The way of the events to one subscription. The dispatcher puts an event into the relay queue of the
lane, and drops it if the queue is full. The relay takes the events out of the queue, one at a time,
and puts them into the output. If the output is full, the relay holds the event back: at a tick it
takes the oldest event out of the output to make room, and at the deadline it gives the event up.
The relay ends its work when it finds that the feed is closed, that the signal of the subscription
has fired or that the subscription was dropped. What it had not put into the output by then is lost.

## Main definitions

* `BoundedQueue`: a bounded queue, first in, first out.
* `Lane`: a relay queue, the relay and the output.
* `Lane.enter`: the dispatcher hands an event to the lane.
* `Lane.pass?`, `Lane.sample?`, `Lane.expire?`, `Lane.quit`: what the relay does.
-/

namespace ClaimGrid

/-! ### Bounded queues -/

/-- A bounded queue, first in, first out. -/
structure BoundedQueue (ε : Type) where
  /-- The number of items that it holds at most. -/
  capacity : Nat
  /-- What it holds, oldest first. -/
  items : List ε
  capacity_pos : 0 < capacity
  length_le : items.length ≤ capacity

namespace BoundedQueue

variable {ε : Type}

/-- An empty queue. -/
def empty (capacity : Nat) (h : 0 < capacity) : BoundedQueue ε := ⟨capacity, [], h, Nat.zero_le _⟩

/-- Whether there is no room for another item. -/
def isFull (c : BoundedQueue ε) : Bool := c.items.length = c.capacity

/-- Takes in an item if there is room for it right now. -/
def trySend? (c : BoundedQueue ε) (e : ε) : Option (BoundedQueue ε) :=
  if h : c.items.length < c.capacity then
    some { c with
      items := c.items ++ [e]
      length_le := by rwa [List.length_append] }
  else none

/-- Gives away the oldest `n` items. -/
def skip (c : BoundedQueue ε) (n : Nat) : BoundedQueue ε :=
  { c with
    items := c.items.drop n
    length_le := Nat.le_trans (List.drop_sublist n c.items).length_le c.length_le }

/-- Hands out the oldest item. -/
def tryReceive? (c : BoundedQueue ε) : Option (ε × BoundedQueue ε) :=
  c.items.head?.map (·, c.skip 1)

end BoundedQueue

/-! ### The way to a subscription -/

/-- The way of the events to one subscription. -/
structure Lane (ε : Type) where
  /-- The signal that ends the subscription. -/
  stop : SignalId
  /-- The events that the relay has not taken up yet. -/
  relay : BoundedQueue ε
  /-- The event that the relay has taken up and found no room for. -/
  held : Option ε
  /-- What the subscriber reads. -/
  output : BoundedQueue ε
  /-- Whether the relay is at work. -/
  working : Bool
  /-- Whether the subscription was dropped. -/
  abandoned : Bool

namespace Lane

variable {ε : Type} (l : Lane ε)

/-- The dispatcher hands an event to the lane. It is dropped if the relay queue is full, or gone
together with the relay. -/
def enter (e : ε) : Lane ε :=
  if l.working then
    match l.relay.trySend? e with
    | some relay => { l with relay := relay }
    | none => l
  else l

/-- The relay takes up the next event and puts it into the output, or holds it back if the output is
full. -/
def pass? : Option (Lane ε) :=
  if l.working && l.held.isNone then
    l.relay.tryReceive?.map fun (e, relay) =>
      match l.output.trySend? e with
      | some output => { l with relay := relay, output := output }
      | none => { l with relay := relay, held := some e }
  else none

/-- At a tick, the relay tries again to put the event into the output that it holds back. It takes
the oldest event out of an output that is full. -/
def sample? : Option (Lane ε) :=
  if l.working then
    l.held.map fun e =>
      let output := if l.output.isFull then l.output.skip 1 else l.output
      match output.trySend? e with
      | some output => { l with output := output, held := none }
      | none => { l with output := output }
  else none

/-- At the deadline, the relay gives up the event that it holds back. -/
def expire? : Option (Lane ε) :=
  if l.working then l.held.map fun _ => { l with held := none } else none

/-- The relay ends its work; what is still on the lane is lost. -/
def quit : Lane ε :=
  { l with working := false, held := none, relay := l.relay.skip l.relay.items.length }

/-- A bound for the number of moves that the relay can still make. -/
def work : Nat :=
  if l.working then 1 + l.held.toList.length + 2 * l.relay.items.length else 0

/-- A bound for the number of moves that the relays of some lanes can still make. -/
def totalWork : List (Lane ε) → Nat
  | [] => 0
  | l :: ls => l.work + totalWork ls

end Lane

end ClaimGrid
