import ClaimGrid.Feed.Basic

/-!
# Requests to a feed

Every call that may change a feed, as one value, so that runs of a feed can be described.

## Main definitions

* `FeedRequest`: a call with its arguments.
* `FeedAnswer`: what a call answers.
* `Feed.step`, `Feed.run`: the feed after a call, and after a list of calls.
-/

namespace ClaimGrid

/-- A call that may change a feed. -/
inductive FeedRequest (ε : Type) where
  | publish (e : ε)
  | tryPublish (e : ε)
  | start (signal : SignalId)
  | close
  | fire (signal : SignalId)
  | subscribe (signal : SignalId) (capacity : Nat)
  | dropSubscription (id : SubscriptionId)
  | receive (id : SubscriptionId) (n : Nat)

/-- What a call answers. -/
inductive FeedAnswer (ε : Type) where
  /-- The outcome of publishing. -/
  | published (outcome : Except FeedError Unit)
  /-- The name of a new subscription. -/
  | subscribed (id : SubscriptionId)
  /-- The events read and why reading ended. -/
  | received (events : Option (List ε × ReadEnd))
  /-- Nothing. -/
  | none

namespace Feed

variable {ε : Type}

/-- The answer to a call and the feed after it. -/
def step (f : Feed ε) : FeedRequest ε → FeedAnswer ε × Feed ε
  | .publish e => (.published (f.publish e).1, (f.publish e).2)
  | .tryPublish e => (.published (f.tryPublish e).1, (f.tryPublish e).2)
  | .start signal => (.none, f.start signal)
  | .close => (.none, f.close)
  | .fire signal => (.none, f.fire signal)
  | .subscribe signal capacity =>
      (.subscribed (f.subscribe signal capacity).1, (f.subscribe signal capacity).2)
  | .dropSubscription id => (.none, f.dropSubscription id)
  | .receive id n => (.received (f.receive id n).1, (f.receive id n).2)

/-- The feed after a list of calls. -/
def run (f : Feed ε) (rs : List (FeedRequest ε)) : Feed ε := rs.foldl (fun f r => (f.step r).2) f

end Feed

end ClaimGrid
