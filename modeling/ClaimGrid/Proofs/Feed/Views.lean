import ClaimGrid.Proofs.Feed.Sharing

/-!
# What one subscriber has to do with

Of the calls to a feed, a subscriber has to do with those that publish, start or close, with those
that fire the signal of the feed or its own, and with those that make, read or drop its
subscription. It sees them as it would without the others. Subscriptions are named in the order in
which they are made, so that it has another name in another run; in its own view it has the name 0.

## Main definitions

* `FeedCall.view?`, `FeedLog.view`: the calls that one subscriber has to do with.
* `FeedLog.heeded`: the signals that one subscriber has to do with.
* `FeedLog.Covers`: enough signals are heeded.

## Main results

* `FeedLog.exists_prefix_requests`: the points of two runs that ask the same of a subscriber.
* `FeedLog.requests_emptied`: what was asked can be told without what was read.
* `FeedRequest.InTime.requests_view`: a start in time is seen as one.
-/

namespace ClaimGrid

variable {ε : Type}

/-- A call as the subscriber `id` would make it without the others, if it has to do with it: it
publishes, starts or closes, fires one of the given signals, or makes, reads or drops the
subscription. -/
def FeedCall.view? (signals : List SignalId) (id : SubscriptionId) (c : FeedCall ε) :
    Option (FeedCall ε) :=
  match c.request, c.answer with
  | .fire signal, answer => if signal ∈ signals then some ⟨.fire signal, answer⟩ else none
  | .subscribe stop capacity, .subscribed other =>
      if other = id then some ⟨.subscribe stop capacity, .subscribed 0⟩ else none
  | .subscribe .., _ => none
  | .dropSubscription other, answer =>
      if other = id then some ⟨.dropSubscription 0, answer⟩ else none
  | .receive other n, answer => if other = id then some ⟨.receive 0 n, answer⟩ else none
  | .publish e, answer => some ⟨.publish e, answer⟩
  | .tryPublish e, answer => some ⟨.tryPublish e, answer⟩
  | .start signal, answer => some ⟨.start signal, answer⟩
  | .close, answer => some ⟨.close, answer⟩

namespace FeedLog

/-- The calls that the subscriber `id` has to do with. -/
def view (signals : List SignalId) (id : SubscriptionId) (t : FeedLog ε) : FeedLog ε :=
  t.filterMap (FeedCall.view? signals id)

/-- The requests among them, without their answers. -/
def requests (signals : List SignalId) (id : SubscriptionId) (t : FeedLog ε) :
    List (FeedRequest ε) := (t.view signals id).map FeedCall.request

/-- The signals that the subscriber `id` has to do with: the one that the feed is started under, and
its own. -/
def heeded (id : SubscriptionId) (t : FeedLog ε) : List SignalId :=
  t.signal?.toList ++ (t.filterMap FeedCall.registers?).filterMap fun p =>
    if p.1 = id then some p.2 else none

end FeedLog

/-! ### Calls as one subscriber sees them -/

namespace FeedCall

variable {signals : List SignalId} {id : SubscriptionId} {c c' : FeedCall ε}

theorem starts?_eq (c : FeedCall ε) : c.starts? = c.request.starts? := by
  obtain ⟨request, answer⟩ := c
  cases request <;> rfl

theorem starts?_of_view (signals : List SignalId) (id : SubscriptionId) (c : FeedCall ε) :
    (c.view? signals id).bind starts? = c.starts? := by
  obtain ⟨request, answer⟩ := c
  cases request with
  | publish e | tryPublish e | start signal | close => rfl
  | fire signal =>
    dsimp only [view?]
    split <;> rfl
  | subscribe stop capacity =>
    cases answer with
    | subscribed other =>
      dsimp only [view?]
      split <;> rfl
    | _ => rfl
  | dropSubscription other | receive other n =>
    dsimp only [view?]
    split <;> rfl

/-- Requests that name no subscription are seen as they are. -/
theorem request_of_view {signal : SignalId} (h : c.view? signals id = some c')
    (hrequest : c'.request = .start signal ∨ c'.request = .fire signal) :
    c.request = c'.request := by
  obtain ⟨request, answer⟩ := c
  cases request with
  | publish e | tryPublish e | start signal | close =>
    obtain rfl := Option.some.inj h
    rfl
  | fire signal =>
    obtain ⟨-, rfl⟩ := Option.ite_some_none_eq_some.1 h
    rfl
  | dropSubscription other | receive other n =>
    obtain ⟨-, rfl⟩ := Option.ite_some_none_eq_some.1 h
    rcases hrequest with hstart | hfire
    · cases hstart
    · cases hfire
  | subscribe stop capacity =>
    cases answer with
    | subscribed other =>
      obtain ⟨-, rfl⟩ := Option.ite_some_none_eq_some.1 h
      rcases hrequest with hstart | hfire
      · cases hstart
      · cases hfire
    | _ => cases h

/-- The subscription that a subscriber makes is its own. -/
theorem registers?_of_view {stop : SignalId} {capacity : Nat} (h : c.view? signals id = some c')
    (hrequest : c'.request = .subscribe stop capacity) : c.registers? = some (id, stop) := by
  obtain ⟨request, answer⟩ := c
  cases request with
  | subscribe stop' capacity' =>
    cases answer with
    | subscribed other =>
      obtain ⟨rfl, rfl⟩ := Option.ite_some_none_eq_some.1 h
      obtain ⟨rfl, rfl⟩ := FeedRequest.subscribe.inj hrequest
      rfl
    | _ => cases h
  | fire signal | dropSubscription other | receive other n =>
    obtain ⟨-, rfl⟩ := Option.ite_some_none_eq_some.1 h
    cases hrequest
  | publish e | tryPublish e | start signal | close =>
    obtain rfl := Option.some.inj h
    cases hrequest

theorem view?_emptied (c : FeedCall ε) :
    c.emptied.view? signals id = (c.view? signals id).map emptied := by
  obtain ⟨request, answer⟩ := c
  cases request with
  | publish e | tryPublish e | start signal | close => cases answer <;> rfl
  | fire signal | dropSubscription other | receive other n =>
    cases answer <;> dsimp only [view?, emptied] <;> split <;> rfl
  | subscribe stop capacity =>
    cases answer with
    | subscribed other =>
      dsimp only [view?, emptied]
      split <;> rfl
    | _ => rfl

theorem request_emptied (c : FeedCall ε) : c.emptied.request = c.request := by
  obtain ⟨request, answer⟩ := c
  cases answer <;> rfl

end FeedCall

/-! ### Logs as one subscriber sees them -/

namespace FeedLog

variable {t u p₁ : FeedLog ε} {signals : List SignalId} {id id₁ id₂ : SubscriptionId}

theorem requests_append (t u : FeedLog ε) :
    FeedLog.requests signals id (t ++ u) = t.requests signals id ++ u.requests signals id := by
  rw [requests, view, List.filterMap_append, List.map_append]
  rfl

/-- Everybody has to do with the first start. -/
theorem findSome?_requests (signals : List SignalId) (id : SubscriptionId) (t : FeedLog ε) :
    (t.requests signals id).findSome? FeedRequest.starts? = t.signal? := by
  have hstarts : FeedRequest.starts? ∘ FeedCall.request = FeedCall.starts? (ε := ε) :=
    funext fun c => c.starts?_eq.symm
  rw [requests, view, List.findSome?_map, hstarts, ← List.head?_filterMap,
    List.filterMap_filterMap, signal?, ← List.head?_filterMap]
  exact congrArg (fun g => (List.filterMap g t).head?)
    (funext (FeedCall.starts?_of_view signals id))

/-- The signals of the first start and of the subscriptions that are watched are among the given
ones. -/
structure Covers (signals : List SignalId) (rs : List (FeedRequest ε)) : Prop where
  start_mem : ∀ signal, rs.findSome? FeedRequest.starts? = some signal → signal ∈ signals
  stop_mem : ∀ stop capacity, .subscribe stop capacity ∈ rs → stop ∈ signals

/-- The signals that a subscriber has to do with in a run cover every part of the run. -/
theorem covers_heeded (h : u <+: t) : Covers (t.heeded id) (u.requests (t.heeded id) id) where
  start_mem signal hsignal := by
    obtain ⟨v, rfl⟩ := h
    rw [findSome?_requests] at hsignal
    refine List.mem_append_left _ ?_
    rw [signal?_append, hsignal, Option.some_or]
    exact List.mem_singleton_self signal
  stop_mem stop capacity hmem := by
    obtain ⟨v, rfl⟩ := h
    obtain ⟨c', hc', hrequest⟩ := List.mem_map.1 hmem
    obtain ⟨c, hc, hview⟩ := List.mem_filterMap.1 hc'
    refine List.mem_append_right _ (List.mem_filterMap.2 ⟨(id, stop), ?_, if_pos rfl⟩)
    refine List.mem_filterMap.2 ⟨c, ?_, FeedCall.registers?_of_view hview hrequest⟩
    exact List.mem_append_left _ hc

/-- Where two runs ask the same of a subscriber, so do parts of them. -/
theorem exists_prefix_requests (hsame : t.requests signals id₁ = u.requests signals id₂)
    (hp₁ : p₁ <+: t) :
    ∃ p₂, p₂ <+: u ∧ p₁.requests signals id₁ = FeedLog.requests signals id₂ p₂ := by
  obtain ⟨q₁, rfl⟩ := hp₁
  rw [requests_append] at hsame
  obtain ⟨v, v', hv, hrequests, -⟩ := List.map_eq_append_iff.1 hsame.symm
  obtain ⟨p₂, q₂, rfl, hview, -⟩ := List.filterMap_eq_append_iff.1 hv
  refine ⟨p₂, List.prefix_append p₂ q₂, ?_⟩
  rw [← hrequests, ← hview]
  rfl

/-- What a subscriber asked can be told without what was read. -/
theorem requests_emptied (t : FeedLog ε) (signals : List SignalId) (id : SubscriptionId) :
    FeedLog.requests signals id (t.map FeedCall.emptied) = t.requests signals id := by
  rw [requests, requests, view, view, List.filterMap_map]
  have hview : FeedCall.view? signals id ∘ FeedCall.emptied =
      fun c => (FeedCall.view? (ε := ε) signals id c).map FeedCall.emptied :=
    funext FeedCall.view?_emptied
  rw [hview, ← List.map_filterMap, List.map_map]
  exact List.map_congr_left fun c _ => c.request_emptied

end FeedLog

/-- If a run is not started late, one subscriber does not see a late start either. -/
theorem FeedRequest.InTime.requests_view {t : FeedLog ε} (h : InTime (t.map FeedCall.request))
    (signals : List SignalId) (id : SubscriptionId) : InTime (t.requests signals id) := by
  intro before signal after hsplit hfirst hfire
  obtain ⟨v, v', hv, rfl, hrest⟩ := List.map_eq_append_iff.1 hsplit
  obtain ⟨c', w, rfl, hstart, -⟩ := List.map_eq_cons_iff.1 hrest
  obtain ⟨u, u', rfl, rfl, hview⟩ := List.filterMap_eq_append_iff.1 hv
  obtain ⟨skipped, c, rest, rfl, hskipped, hc, -⟩ := List.filterMap_eq_cons_iff.1 hview
  have hrequest : c.request = .start signal :=
    (FeedCall.request_of_view hc (.inl hstart)).trans hstart
  refine h ((u ++ skipped).map FeedCall.request) signal (rest.map FeedCall.request) ?_ ?_ ?_
  · rw [List.map_append, List.map_append, List.map_append, List.map_cons, hrequest,
      List.append_assoc]
  · intro other hmem
    obtain ⟨⟨r, answer⟩, hcall, rfl⟩ := List.mem_map.1 hmem
    -- every start is seen
    have hseen : FeedCall.view? signals id ⟨.start other, answer⟩ =
        some ⟨.start other, answer⟩ := rfl
    rcases List.mem_append.1 hcall with hu | hnot
    · exact hfirst other (List.mem_map.2 ⟨_, List.mem_filterMap.2 ⟨_, hu, hseen⟩, rfl⟩)
    · rw [hskipped _ hnot] at hseen
      cases hseen
  · obtain ⟨c₁', hmem, hfired⟩ := List.mem_map.1 hfire
    obtain ⟨c₁, hu, hc₁⟩ := List.mem_filterMap.1 hmem
    refine List.mem_map.2 ⟨c₁, List.mem_append_left _ hu, ?_⟩
    exact (FeedCall.request_of_view hc₁ (.inr hfired)).trans hfired

end ClaimGrid
