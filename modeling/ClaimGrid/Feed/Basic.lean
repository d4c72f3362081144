import ClaimGrid.Feed.Settings

/-!
# Feeds

A feed fans events out to its subscriptions. Until it is started, events wait in the ingress queue;
while it runs, every event goes to the output of every attached subscription; once stopped, it
accepts nothing. An output keeps the newest events only: a full one loses its oldest.

A feed stops when it is closed or when the signal it was started under fires. A subscription is
detached when its own signal fires or the feed stops; what its output holds can still be read.

Feeds are described at rest, that is when every accepted event has reached its outputs. What happens
in between, in the queues that lie between a publisher and an output, is described by `Hub`, and a
hub at rest that has lost no event is where a feed stands (`Hub.Runs.follows`). One thing is left
open there: a start under a signal that has fired may hand out some of the queued events before it
closes the feed. `Feed.start` closes the feed at once; `Feed.shareOut` tells the other outcomes.

## Main definitions

* `FeedState`: created, running or stopped.
* `Subscription`: an output and whether events still reach it.
* `Feed`: state, ingress queue, subscriptions and the signals that have fired.
* `Feed.publish`, `Feed.tryPublish`, `Feed.start`, `Feed.close`, `Feed.fire`, `Feed.subscribe`,
  `Feed.dropSubscription`, `Feed.receive`: what can be done with a feed.
-/

namespace ClaimGrid

/-- The life of a feed. -/
inductive FeedState where
  /-- Accepting subscriptions and queueing events. -/
  | created
  /-- Delivering events. -/
  | running
  /-- Closed for good. -/
  | stopped
  deriving DecidableEq

/-- A state as it is shown to a developer. -/
def FeedState.name : FeedState → String
  | created => "Created"
  | running => "Running"
  | stopped => "Stopped"

/-- The name of a stop signal. -/
abbrev SignalId := Nat

/-- The name of a subscription. -/
abbrev SubscriptionId := Nat

/-- The output of a subscriber. -/
structure Subscription (ε : Type) where
  /-- Its name in the feed. -/
  id : SubscriptionId
  /-- The signal that ends it. -/
  stop : SignalId
  /-- The number of events that its output holds. -/
  capacity : Nat
  /-- The events that wait to be read, oldest first. -/
  buffer : List ε
  /-- Whether events still reach it. -/
  attached : Bool
  deriving DecidableEq

namespace Subscription

variable {ε : Type}

/-- The last `n` entries of a list. -/
def newest (n : Nat) (l : List ε) : List ε := l.drop (l.length - n)

/-- An event arrives at an output, which loses its oldest event if it was full. -/
def deliver (s : Subscription ε) (e : ε) : Subscription ε :=
  if s.attached then { s with buffer := newest s.capacity (s.buffer ++ [e]) } else s

/-- No event reaches the output from now on. -/
def detach (s : Subscription ε) : Subscription ε := { s with attached := false }

/-- A subscription as it is shown to a developer. -/
def outline (s : Subscription ε) : Outline :=
  .record "Subscription" [("buffered", .number s.buffer.length)]

end Subscription

/-- How reading from a subscription ended. -/
inductive ReadEnd where
  /-- As many events were read as were asked for. -/
  | satisfied
  /-- No further event is there yet. -/
  | drained
  /-- No further event will come. -/
  | disconnected
  deriving DecidableEq

/-- A fan-out of events of type `ε`. -/
structure Feed (ε : Type) where
  /-- Queue sizes and waits. -/
  settings : FeedSettings
  /-- Where the feed stands in its life. -/
  state : FeedState
  /-- The signal that the feed was started under. -/
  guard : Option SignalId
  /-- The signals that have fired. -/
  fired : List SignalId
  /-- The events that wait for the start, oldest first. -/
  ingress : List ε
  /-- The subscriptions that have not been dropped, oldest first. -/
  subscriptions : List (Subscription ε)
  /-- The name of the next subscription. -/
  nextId : SubscriptionId

namespace Feed

variable {ε : Type}

/-- A feed without events and subscriptions, refused if a setting is out of range. -/
def make (settings : FeedSettings) : Except FeedError (Feed ε) :=
  match settings.validate with
  | .error e => .error e
  | .ok () =>
    .ok { settings := settings, state := .created, guard := none, fired := [], ingress := [],
          subscriptions := [], nextId := 0 }

variable (f : Feed ε)

/-- Whether the feed delivers events. -/
def isRunning : Bool := f.state = .running

/-- The number of attached subscriptions. -/
def subscriberCount : Nat := f.subscriptions.countP (·.attached)

/-- The subscription of a given name. -/
def subscription? (id : SubscriptionId) : Option (Subscription ε) :=
  f.subscriptions.find? (·.id = id)

/-- An event reaches every attached subscription. -/
def dispatch (e : ε) : Feed ε := { f with subscriptions := f.subscriptions.map (·.deliver e) }

/-- Accepts an event: it is queued before the start and delivered while the feed runs. A full queue
answers with `refusal`. -/
def accept (refusal : FeedError) (e : ε) : Except FeedError Unit × Feed ε :=
  match f.state with
  | .stopped => (.error .stopped, f)
  | .running => (.ok (), f.dispatch e)
  | .created =>
    if f.ingress.length < f.settings.ingressCapacity.toNat then
      (.ok (), { f with ingress := f.ingress ++ [e] })
    else (.error refusal, f)

/-- Publishes an event, waiting for room in the queue as long as the settings allow. -/
def publish (e : ε) : Except FeedError Unit × Feed ε :=
  f.accept (.timeout f.settings.sendTimeout) e

/-- Publishes an event if there is room for it right now. -/
def tryPublish (e : ε) : Except FeedError Unit × Feed ε := f.accept .full e

/-- Stops the feed and detaches every subscription. -/
def close : Feed ε :=
  { f with state := .stopped, subscriptions := f.subscriptions.map (·.detach) }

/-- Delivers the queued events. -/
def dispatchIngress : Feed ε := f.ingress.foldl dispatch { f with ingress := [] }

/-- Starts delivery until a signal fires, queued events first. Only the first start of a feed that
was not closed has an effect. One under a signal that has fired closes the feed, here before any
queued event has been handed out. -/
def start (signal : SignalId) : Feed ε :=
  match f.state with
  | .created =>
    let f := { f with state := .running, guard := some signal }
    if f.fired.contains signal then f.close else f.dispatchIngress
  | .running | .stopped => f

/-- A signal fires: it detaches the subscriptions that listen to it and closes a feed that runs
under it. -/
def fire (signal : SignalId) : Feed ε :=
  let f := { f with
    fired := signal :: f.fired
    subscriptions := f.subscriptions.map fun s => if s.stop = signal then s.detach else s }
  if f.isRunning && f.guard = some signal then f.close else f

/-- Registers a subscription whose output holds at least one event. It is born detached if the feed
is stopped or its signal has fired. -/
def subscribe (signal : SignalId) (capacity : Nat) : SubscriptionId × Feed ε :=
  (f.nextId,
    { f with
      subscriptions := f.subscriptions ++
        [{ id := f.nextId, stop := signal, capacity := max capacity 1, buffer := [],
           attached := f.state ≠ .stopped && !f.fired.contains signal }]
      nextId := f.nextId + 1 })

/-- Drops a subscription together with what its output holds. -/
def dropSubscription (id : SubscriptionId) : Feed ε :=
  { f with subscriptions := f.subscriptions.filter (·.id ≠ id) }

/-- Takes at most `n` events out of the output of a subscription. -/
def take (id : SubscriptionId) (n : Nat) : Feed ε :=
  { f with
    subscriptions := f.subscriptions.map fun s =>
      if s.id = id then { s with buffer := s.buffer.drop n } else s }

/-- Reads at most `n` events of a subscription, oldest first; answers them and why reading ended,
or nothing if the subscription was dropped. -/
def receive (id : SubscriptionId) (n : Nat) : Option (List ε × ReadEnd) × Feed ε :=
  match f.subscription? id with
  | none => (none, f)
  | some s =>
    let stop : ReadEnd :=
      if n ≤ s.buffer.length then .satisfied
      else if s.attached then .drained else .disconnected
    (some (s.buffer.take n, stop), f.take id n)

/-- Reads everything that the output of a subscription holds. -/
def receiveAll (id : SubscriptionId) : Option (List ε) × Feed ε :=
  match f.subscription? id with
  | none => (none, f)
  | some s => (some s.buffer, f.take id s.buffer.length)

/-- A feed as it is shown to a developer. -/
def outline : Outline :=
  .record "Broadcaster" [("state", .bare f.state.name),
    ("subscribers", .number f.subscriberCount), ("config", f.settings.outline)]

end Feed

end ClaimGrid
