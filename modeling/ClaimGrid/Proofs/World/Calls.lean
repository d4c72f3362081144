import ClaimGrid.Proofs.Feed.Phases
import ClaimGrid.Proofs.World.Outcome

/-!
# What the calls to a world report

Whoever keeps the calls that were made to a world, with their answers, knows which events they
reported. To the feed, a run of a world is a run of its own: every event is published, and the calls
that are about the feed are passed on.

## Main definitions

* `WorldCall`, `WorldLog`: a call with its answer, and the calls that were made to a world.
* `WorldCall.events`: the events that a call reports.
* `WorldLog.attempted`, `WorldLog.received`: the events reported, and the events read.
* `WorldCall.feedRequests`: what a call asks of the feed.

## Main results

* `World.feed_run`: the feed after a run of the world.
* `World.read_feedRequests`: what is read from the world is read from the feed.
-/

namespace ClaimGrid

variable {α : Type}

/-- A call to a world with its answer. -/
structure WorldCall (α : Type) where
  /-- The call. -/
  request : WorldRequest α
  /-- What it answered. -/
  answer : WorldAnswer α

/-- The calls that were made to a world, oldest first. -/
abbrev WorldLog (α : Type) := List (WorldCall α)

/-- The kind that reports a granted request. -/
def BoardRequest.kind : BoardRequest α → EventKind
  | create .. | createAvailable .. | createRandomDot .. | createRandomRect ..
  | createRandomRectMargin .. | createRandomMask .. => .created
  | update .. | updateAvailable .. => .updated
  | delete .. => .deleted

theorem BoardRequest.ofEffect_effect (r : BoardRequest α) :
    EventKind.ofEffect r.effect = r.kind := by
  cases r <;> rfl

/-- The call to the feed that a call to a world passes on, if it is about the feed. -/
def WorldRequest.toFeed? : WorldRequest α → Option (FeedRequest (Event α))
  | start signal => some (.start signal)
  | close => some .close
  | fire signal => some (.fire signal)
  | watch signal capacity => some (.subscribe signal capacity)
  | dropWatch id => some (.dropSubscription id)
  | receive id n => some (.receive id n)
  | _ => none

theorem WorldRequest.toFeed?_inj {r r₂ : WorldRequest α} {r' : FeedRequest (Event α)}
    (h : r.toFeed? = some r') (h₂ : r₂.toFeed? = some r') : r₂ = r := by
  cases r <;> cases h <;> cases r₂ <;> cases h₂ <;> rfl

theorem WorldRequest.toFeed?_ne_tryPublish (r : WorldRequest α) (e : Event α) :
    r.toFeed? ≠ some (.tryPublish e) := by
  cases r <;> nofun

namespace WorldCall

/-- The events that a call reports: a change its kind and its object, a failure the error that was
answered, and a lookup every object that was found. -/
def events (c : WorldCall α) : List (Event α) :=
  match c.request, c.answer with
  | .perform r, .performed (.ok _) => [⟨r.kind, .object r.object⟩]
  | .perform _, .performed (.error e) => [⟨.error, .failure e⟩]
  | .objectAt _, .object found => found.toList.map fun o => ⟨.checked, .object o⟩
  | .objectsAt _, .objects found => found.map fun o => ⟨.checked, .object o⟩
  | _, _ => []

/-- The events that the call read from a subscription. -/
def read (id : SubscriptionId) (c : WorldCall α) : List (Event α) :=
  match c.request, c.answer with
  | .receive other _, .received (some (es, _)) => if other = id then es else []
  | _, _ => []

/-- What a call asks of the feed. -/
def feedRequests (c : WorldCall α) : List (FeedRequest (Event α)) :=
  match c.request.toFeed? with
  | some r => [r]
  | none => c.events.map .tryPublish

end WorldCall

namespace WorldLog

/-- The events that the calls reported, in the order of the calls. -/
def attempted (t : WorldLog α) : List (Event α) := t.flatMap WorldCall.events

/-- The events read from a subscription, in order. -/
def received (id : SubscriptionId) (t : WorldLog α) : List (Event α) :=
  t.flatMap (WorldCall.read id)

/-- What the calls asked of the feed. -/
def feedRequests (t : WorldLog α) : List (FeedRequest (Event α)) :=
  t.flatMap WorldCall.feedRequests

end WorldLog

theorem WorldCall.published_feedRequests (c : WorldCall α) :
    c.feedRequests.filterMap FeedRequest.published? = c.events := by
  obtain ⟨request, answer⟩ := c
  have hevents (es : List (Event α)) :
      (es.map FeedRequest.tryPublish).filterMap FeedRequest.published? = es := by
    rw [List.filterMap_map]
    exact List.filterMap_some
  cases request with
  | start signal | close | fire signal | watch signal capacity | dropWatch id | receive id n => rfl
  | _ => exact hevents _

/-- The feed is asked to publish exactly what the calls report. -/
theorem WorldLog.published_feedRequests (t : WorldLog α) :
    t.feedRequests.filterMap FeedRequest.published? = t.attempted := by
  rw [feedRequests, List.filterMap_flatMap]
  exact congrArg (List.flatMap · t) (funext WorldCall.published_feedRequests)

namespace World

/-! ### The feed of a world -/

theorem read_log_tryPublish (f : Feed (Event α)) (id : SubscriptionId) (es : List (Event α)) :
    FeedLog.read id (f.log (es.map .tryPublish)) = [] := by
  induction es generalizing f with
  | nil => rfl
  | cons e es ih => exact ih _

variable [DecidableEq α] (w : World α)

/-- The calls of a run, with their answers. -/
def log (w : World α) : List (WorldRequest α) → WorldLog α
  | [] => []
  | r :: rs => ⟨r, (w.step r).1⟩ :: log (w.step r).2 rs

theorem run_append (rs rs' : List (WorldRequest α)) :
    w.run (rs ++ rs') = (w.run rs).run rs' := List.foldl_append

theorem log_append (rs rs' : List (WorldRequest α)) :
    w.log (rs ++ rs') = w.log rs ++ (w.run rs).log rs' := by
  induction rs generalizing w with
  | nil => rfl
  | cons r rs ih =>
    change _ :: (w.step r).2.log (rs ++ rs') = _
    rw [ih]
    rfl

theorem feedRequests_log_append (rs rs' : List (WorldRequest α)) :
    (w.log (rs ++ rs')).feedRequests =
      (w.log rs).feedRequests ++ ((w.run rs).log rs').feedRequests := by
  rw [log_append]
  exact List.flatMap_append

theorem attempted_log_append (rs rs' : List (WorldRequest α)) :
    (w.log (rs ++ rs')).attempted = (w.log rs).attempted ++ ((w.run rs).log rs').attempted := by
  rw [log_append]
  exact List.flatMap_append

theorem received_log_append (id : SubscriptionId) (rs rs' : List (WorldRequest α)) :
    (w.log (rs ++ rs')).received id =
      (w.log rs).received id ++ ((w.run rs).log rs').received id := by
  rw [log_append]
  exact List.flatMap_append

theorem request_mem_of_mem_log {c : WorldCall α} {rs : List (WorldRequest α)} (h : c ∈ w.log rs) :
    c.request ∈ rs := by
  induction rs generalizing w with
  | nil => cases h
  | cons r rs ih =>
    rcases List.mem_cons.1 h with rfl | hrest
    · exact List.mem_cons_self
    · exact List.mem_cons_of_mem _ (ih _ hrest)

/-- What is not called does not reach the feed. -/
theorem notMem_feedRequests {r : WorldRequest α} {r' : FeedRequest (Event α)}
    {rs : List (WorldRequest α)} (hr : r.toFeed? = some r') (h : r ∉ rs) :
    r' ∉ (w.log rs).feedRequests := by
  intro hmem
  obtain ⟨c, hc, hmem⟩ := List.mem_flatMap.1 hmem
  rw [WorldCall.feedRequests] at hmem
  cases hto : c.request.toFeed? with
  | some r'' =>
    rw [hto] at hmem
    obtain rfl := List.mem_singleton.1 hmem
    exact h (WorldRequest.toFeed?_inj hr hto ▸ w.request_mem_of_mem_log hc)
  | none =>
    rw [hto] at hmem
    obtain ⟨e, -, rfl⟩ := List.mem_map.1 hmem
    exact WorldRequest.toFeed?_ne_tryPublish r e hr

/-- A request reports its outcome. -/
theorem events_perform (r : BoardRequest α) :
    WorldCall.events ⟨.perform r, (w.step (.perform r)).1⟩ = [reportOf r (w.board.step r).1] := by
  rw [step, perform]
  cases (w.board.step r).1 with
  | ok answer =>
    rw [reportOf, r.ofEffect_effect]
    rfl
  | error e => rfl

/-- What a call asks of the feed is what becomes of the feed. -/
theorem feed_step (r : WorldRequest α) :
    (w.step r).2.feed = w.feed.run (WorldCall.feedRequests ⟨r, (w.step r).1⟩) := by
  cases r with
  | perform r =>
    have hevents := congrArg (List.map FeedRequest.tryPublish) (w.events_perform r)
    exact (feed_publish _ _).trans (congrArg w.feed.run hevents.symm)
  | objectAt d =>
    change (w.objectAt d).2.feed =
      w.feed.run (((w.objectAt d).1.toList.map (Event.ofObject .checked)).map .tryPublish)
    rw [objectAt]
    cases w.board.owner? d with
    | none => rfl
    | some o => exact w.feed_publish _
  | objectsAt l =>
    have hevents : WorldCall.feedRequests ⟨.objectsAt l, (w.step (.objectsAt l)).1⟩ =
        ((w.board.objectsAt l).map (Event.ofObject .checked)).map .tryPublish := rfl
    rw [hevents]
    exact w.feed_publishAll _
  | locationOccupied l | objects | isRegistered o | navigate d direction distance | stats => rfl
  | start signal | close | fire signal | watch signal capacity | dropWatch id => rfl
  | receive id n => rfl

theorem feed_run (rs : List (WorldRequest α)) :
    (w.run rs).feed = w.feed.run (w.log rs).feedRequests := by
  induction rs generalizing w with
  | nil => rfl
  | cons r rs ih =>
    have hrest := ih (w.step r).2
    rw [feed_step, ← Feed.run_append] at hrest
    exact hrest

/-! ### Reading -/

theorem read_step (id : SubscriptionId) (r : WorldRequest α) :
    FeedLog.read id (w.feed.log (WorldCall.feedRequests ⟨r, (w.step r).1⟩)) =
      WorldCall.read id ⟨r, (w.step r).1⟩ := by
  cases r with
  | perform r | objectAt d | objectsAt l => exact read_log_tryPublish _ _ _
  | receive other n =>
    have hread : FeedCall.read id ⟨.receive other n, (w.feed.step (.receive other n)).1⟩ =
        WorldCall.read id ⟨.receive other n, (w.step (.receive other n)).1⟩ := by
      rw [step, Feed.step]
      cases (w.feed.receive other n).1 <;> rfl
    exact (List.append_nil _).trans hread
  | _ => rfl

theorem read_feedRequests (id : SubscriptionId) (rs : List (WorldRequest α)) :
    FeedLog.read id (w.feed.log (w.log rs).feedRequests) = (w.log rs).received id := by
  induction rs generalizing w with
  | nil => rfl
  | cons r rs ih =>
    have hcall := w.read_step id r
    have hrest := ih (w.step r).2
    rw [feed_step] at hrest
    change FeedLog.read id (w.feed.log (_ ++ _)) = _ ++ _
    rw [Feed.log_append, FeedLog.read_append, hcall]
    exact congrArg _ hrest

end World

end ClaimGrid
