import ClaimGrid.Feed.Lane
import ClaimGrid.Feed.Request

/-!
# Hubs

A feed with all that happens inside it. A hub has an ingress queue, a lane for each subscription, a
dispatcher that hands the events of the ingress queue to the lanes of those who are registered, and
a relay on each lane. The dispatcher and the relays work on their own: a call only changes what they
find, and what they do about it, one move at a time and in any order, they do afterwards. A hub is
at rest when nobody can make a move.

A subscription is known by its place among all that were ever made, so that no two have one name.

## Main definitions

* `Hub`: the queues, the dispatcher, the list of those who are registered, and the lanes.
* `Hub.call`: what a call changes at once, and what it answers.
* `Move`, `Hub.perform?`: what the dispatcher and the relays can do.
* `Hub.settle`: one of the orders in which the moves may come.
-/

namespace ClaimGrid

/-! ### Settings -/

namespace FeedSettings

variable {c : FeedSettings}

theorem ingressCapacity_pos (h : c.validate = .ok ()) : 0 < c.ingressCapacity.toNat := by
  refine Nat.pos_of_ne_zero fun hzero => ?_
  have hnone : c.ingressCapacity = 0 := UInt64.toNat_inj.1 hzero
  rw [validate, if_pos hnone] at h
  cases h

theorem relayCapacity_pos (h : c.validate = .ok ()) : 0 < c.relayCapacity.toNat := by
  refine Nat.pos_of_ne_zero fun hzero => ?_
  have hnone : c.relayCapacity = 0 := UInt64.toNat_inj.1 hzero
  rw [validate, if_pos hnone] at h
  split at h <;> cases h

end FeedSettings

/-! ### Hubs -/

/-- A feed of events of type `ε` with its dispatcher and the relays of its subscriptions. -/
structure Hub (ε : Type) where
  /-- Queue sizes and waits. -/
  settings : FeedSettings
  valid : settings.validate = .ok ()
  /-- Where the hub stands in its life. -/
  state : FeedState
  /-- The signal that the dispatcher listens to, while it is at work. -/
  dispatcher : Option SignalId
  /-- The signals that have fired. -/
  fired : List SignalId
  /-- The events that the dispatcher has not taken up yet. -/
  ingress : BoundedQueue ε
  /-- The subscriptions that the dispatcher hands events to, in the order of registration. -/
  registered : List SubscriptionId
  /-- The lanes of all subscriptions that were ever made, in the order of their names. -/
  lanes : List (Lane ε)

namespace Hub

variable {ε : Type}

/-- A hub without events and subscriptions, refused if a setting is out of range. -/
def make (settings : FeedSettings) : Except FeedError (Hub ε) :=
  match h : settings.validate with
  | .error e => .error e
  | .ok () =>
    .ok { settings := settings, valid := h, state := .created, dispatcher := none, fired := [],
          ingress := .empty settings.ingressCapacity.toNat (FeedSettings.ingressCapacity_pos h),
          registered := [], lanes := [] }

variable (h : Hub ε)

/-- Whether the hub delivers events. -/
def isRunning : Bool := h.state = .running

/-- The number of registered subscriptions. -/
def subscriberCount : Nat := h.registered.length

/-- A hub as it is shown to a developer. -/
def outline : Outline :=
  .record "Broadcaster" [("state", .bare h.state.name),
    ("subscribers", .number h.subscriberCount), ("config", h.settings.outline)]

/-! ### Calls -/

/-- What a subscriber has, unless it has dropped its subscription. -/
def subscription? (id : SubscriptionId) : Option (Subscription ε) :=
  (h.lanes[id]?).bind fun l =>
    if l.abandoned then none
    else some { id := id, stop := l.stop, capacity := l.output.capacity, buffer := l.output.items,
                attached := l.working }

/-- Takes an event into the ingress queue. A queue that has no room answers with `refusal`. -/
def accept (refusal : FeedError) (e : ε) : Except FeedError Unit × Hub ε :=
  if h.state = .stopped then (.error .stopped, h)
  else
    match h.ingress.trySend? e with
    | some ingress => (.ok (), { h with ingress := ingress })
    | none => (.error refusal, h)

/-- Publishes an event, waiting for room in the queue as long as the settings allow. -/
def publish (e : ε) : Except FeedError Unit × Hub ε :=
  h.accept (.timeout h.settings.sendTimeout) e

/-- Publishes an event if there is room for it right now. -/
def tryPublish (e : ε) : Except FeedError Unit × Hub ε := h.accept .full e

/-- Closes the hub; nobody is registered from then on. -/
def close : Hub ε :=
  if h.state = .stopped then h else { h with state := .stopped, registered := [] }

/-- Sends the dispatcher to work until a signal fires. Only the first start of a hub that was not
closed has an effect. -/
def start (signal : SignalId) : Hub ε :=
  if h.state = .created then { h with state := .running, dispatcher := some signal } else h

/-- A signal fires. -/
def fire (signal : SignalId) : Hub ε := { h with fired := signal :: h.fired }

/-- Makes a lane whose output holds at least one event, and registers it unless the hub is
closed. -/
def subscribe (signal : SignalId) (capacity : Nat) : SubscriptionId × Hub ε :=
  let id := h.lanes.length
  let lane : Lane ε :=
    { stop := signal
      relay := .empty h.settings.relayCapacity.toNat (FeedSettings.relayCapacity_pos h.valid)
      held := none
      output := .empty (max capacity 1) (Nat.lt_of_lt_of_le Nat.one_pos (Nat.le_max_right ..))
      working := h.state ≠ .stopped
      abandoned := false }
  (id, { h with
    registered := if h.state = .stopped then h.registered else h.registered ++ [id]
    lanes := h.lanes ++ [lane] })

/-- A subscriber drops its subscription. -/
def dropSubscription (id : SubscriptionId) : Hub ε :=
  { h with lanes := h.lanes.modify id fun l => { l with abandoned := true } }

/-- Takes at most `n` events out of the output of a subscription. -/
def take (id : SubscriptionId) (n : Nat) : Hub ε :=
  { h with lanes := h.lanes.modify id fun l => { l with output := l.output.skip n } }

/-- Reads at most `n` events of a subscription, oldest first; answers them and why reading ended,
or nothing if the subscription was dropped. -/
def receive (id : SubscriptionId) (n : Nat) : Option (List ε × ReadEnd) × Hub ε :=
  match h.subscription? id with
  | none => (none, h)
  | some s =>
    let stop : ReadEnd :=
      if n ≤ s.buffer.length then .satisfied
      else if s.attached then .drained else .disconnected
    (some (s.buffer.take n, stop), h.take id n)

/-- Reads everything that the output of a subscription holds. -/
def receiveAll (id : SubscriptionId) : Option (List ε) × Hub ε :=
  match h.subscription? id with
  | none => (none, h)
  | some s => (some s.buffer, h.take id s.buffer.length)

/-- The answer to a call and the hub right after it. -/
def call : FeedRequest ε → FeedAnswer ε × Hub ε
  | .publish e => (.published (h.publish e).1, (h.publish e).2)
  | .tryPublish e => (.published (h.tryPublish e).1, (h.tryPublish e).2)
  | .start signal => (.none, h.start signal)
  | .close => (.none, h.close)
  | .fire signal => (.none, h.fire signal)
  | .subscribe signal capacity =>
      (.subscribed (h.subscribe signal capacity).1, (h.subscribe signal capacity).2)
  | .dropSubscription id => (.none, h.dropSubscription id)
  | .receive id n => (.received (h.receive id n).1, (h.receive id n).2)

end Hub

/-! ### Moves -/

/-- What the dispatcher does, and what the relay of a subscription does. -/
inductive Move where
  /-- The dispatcher hands the next event to the lanes of all who are registered. -/
  | dispatch
  /-- The dispatcher ends its work and closes the hub. -/
  | halt
  /-- The relay puts the next event into the output, or holds it back. -/
  | pass (id : SubscriptionId)
  /-- The relay makes room for the event that it holds back. -/
  | sample (id : SubscriptionId)
  /-- The relay gives up the event that it holds back. -/
  | expire (id : SubscriptionId)
  /-- The relay ends its work and takes the subscription off the list. -/
  | quit (id : SubscriptionId)

namespace Hub

variable {ε : Type} (h : Hub ε)

/-- Whether the relay of a lane finds that it should end its work. -/
def Ended (l : Lane ε) : Prop :=
  l.stop ∈ h.fired ∨ l.abandoned = true ∨ h.state = .stopped

instance (l : Lane ε) : Decidable (h.Ended l) := by unfold Ended; infer_instance

/-- Whether the dispatcher finds that it should end its work. -/
def Halts : Prop := ∃ signal ∈ h.dispatcher, signal ∈ h.fired ∨ h.state = .stopped

instance : Decidable h.Halts := by unfold Halts; infer_instance

/-- The hub after something was done on one lane. -/
def onLane? (id : SubscriptionId) (action : Lane ε → Option (Lane ε)) : Option (Hub ε) :=
  ((h.lanes[id]?).bind action).map fun l => { h with lanes := h.lanes.set id l }

/-- The hub after a move, if the move can be made. -/
def perform? : Move → Option (Hub ε)
  | .dispatch =>
    if h.dispatcher.isSome then
      h.ingress.tryReceive?.map fun (e, ingress) =>
        { h with
          ingress := ingress
          lanes := h.lanes.mapIdx fun id l => if id ∈ h.registered then l.enter e else l }
    else none
  | .halt => if h.Halts then some { h with dispatcher := none }.close else none
  | .pass id => h.onLane? id Lane.pass?
  | .sample id => h.onLane? id Lane.sample?
  | .expire id => h.onLane? id Lane.expire?
  | .quit id =>
    (h.onLane? id fun l => if l.working ∧ h.Ended l then some l.quit else none).map fun h =>
      { h with registered := h.registered.filter (· ≠ id) }

/-! ### One order of the moves -/

/-- The moves that may be made, except that no relay gives up. Relays come before the dispatcher. -/
def agenda : List Move :=
  (List.range h.lanes.length).flatMap (fun id => [.pass id, .sample id, .quit id]) ++
    [.halt, .dispatch]

/-- The hub after the first move of the agenda that can be made. -/
def next? : Option (Hub ε) := h.agenda.findSome? h.perform?

/-- A bound for the number of moves that can still be made. -/
def work : Nat :=
  Lane.totalWork h.lanes +
    if h.dispatcher.isSome then 1 + h.ingress.items.length * (2 * h.lanes.length + 1) else 0

/-- The hub after at most so many moves of its agenda. -/
def settleWithin : Nat → Hub ε → Hub ε
  | 0, h => h
  | n + 1, h =>
    match h.next? with
    | some h' => settleWithin n h'
    | none => h

/-- The hub after it came to rest. -/
def settle : Hub ε := settleWithin h.work h

/-- The answer to a call and the hub at rest after it. -/
def callAndSettle (r : FeedRequest ε) : FeedAnswer ε × Hub ε :=
  ((h.call r).1, (h.call r).2.settle)

end Hub

end ClaimGrid
