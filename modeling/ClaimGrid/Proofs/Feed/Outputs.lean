import ClaimGrid.Proofs.Feed.Log
import ClaimGrid.Proofs.Feed.Newest
import ClaimGrid.Proofs.Feed.Subscriptions

/-!
# What reaches a subscriber

Events that are accepted before the start are sent to the outputs at the start, and events that are
accepted while the feed runs are sent at once. Of what is sent while events reach it, a subscription
keeps the newest, and is read in order. Once the feed or the subscription has ended, nothing is
added, and what is left can be read to its end.

## Main definitions

* `FeedLog.reaches`: events reach those who listen to a given signal.
* `FeedLog.dispatched`: the events that a call sends to the outputs.
* `FeedLog.heard`: the events sent to a subscription, from its start on.
* `FeedLog.read`: the events read from a subscription.
* `Feed.Hears`: what a feed holds for a subscription.

## Main results

* `Feed.Hears.step`, `Feed.Hears.run`: what a subscription has after a call, and after a run.
* `Feed.keepsNewest_log`: every subscription of every run, from a feed just made.
-/

namespace ClaimGrid

variable {ε : Type}

/-! ### What the calls tell of a subscription -/

/-- The events that the call read from a subscription. -/
def FeedCall.read (id : SubscriptionId) (c : FeedCall ε) : List ε :=
  match c.request, c.answer with
  | .receive other _, .received (some (es, _)) => if other = id then es else []
  | _, _ => []

namespace FeedLog

/-- Whether events reach those who listen to a signal: the feed has not stopped, and the signal has
not fired. -/
def reaches (t : FeedLog ε) (stop : SignalId) : Bool := t.state ≠ .stopped && !t.fired stop

/-- The events that a further call sends to the outputs: the start sends what was accepted before
it, unless its signal has fired, and a running feed sends what the call has it accept. -/
def dispatched (t : FeedLog ε) (c : FeedCall ε) : List ε :=
  match c.starts? with
  | some signal => if t.state = .created ∧ t.fired signal = false then t.accepted else []
  | none => if t.state = .running then c.accepted?.toList else []

/-- The events sent in the calls of the second log to those who listen to a signal. The first log
holds the calls before. -/
def heard (stop : SignalId) : FeedLog ε → FeedLog ε → List ε
  | _, [] => []
  | t, c :: cs => (if t.reaches stop then t.dispatched c else []) ++ heard stop (t ++ [c]) cs

/-- The events read from a subscription, in order. -/
def read (id : SubscriptionId) (t : FeedLog ε) : List ε := t.flatMap (FeedCall.read id)

variable {t : FeedLog ε} {f : Feed ε} {stop : SignalId}

theorem heard_append (stop : SignalId) (t u v : FeedLog ε) :
    heard stop t (u ++ v) = heard stop t u ++ heard stop (t ++ u) v := by
  induction u generalizing t with
  | nil => rw [List.append_nil]; rfl
  | cons c u ih =>
    rw [List.cons_append, heard, heard, ih, List.append_assoc, List.append_assoc,
      List.singleton_append]

theorem read_append (id : SubscriptionId) (t u : FeedLog ε) :
    read id (t ++ u) = read id t ++ read id u := List.flatMap_append

/-! ### In the order of acceptance -/

theorem state_append_ne_created (h : t.state ≠ .created) (u : FeedLog ε) :
    FeedLog.state (t ++ u) ≠ .created := by
  intro hcreated
  obtain ⟨hopen, hnone⟩ := state_eq_created_iff.1 hcreated
  rw [signal?_append, Option.or_eq_none_iff] at hnone
  refine h (state_eq_created_iff.2 ⟨?_, hnone.1⟩)
  exact Bool.eq_false_iff.2 fun hstopped => Bool.eq_false_iff.1 hopen (stopped_append hstopped u)

/-- What a feed has accepted and not sent yet. -/
def queued (t : FeedLog ε) : List ε := if t.state = .created then t.accepted else []

/-- What a call sends and what it leaves for later was queued before or is accepted by the call. -/
theorem dispatched_append_queued_sublist (t : FeedLog ε) (c : FeedCall ε) :
    List.Sublist (t.dispatched c ++ FeedLog.queued (t ++ [c]))
      (t.queued ++ c.accepted?.toList) := by
  rw [queued, queued]
  by_cases hcreated : t.state = .created
  · rw [if_pos hcreated]
    cases hstarts : c.starts? with
    | some signal =>
      have hrunning : FeedLog.state (t ++ [c]) ≠ .created := fun h => by
        have hnone := (state_eq_created_iff.1 h).2
        rw [signal?_append, Option.or_eq_none_iff, signal?_singleton, hstarts] at hnone
        cases hnone.2
      rw [if_neg hrunning, List.append_nil, dispatched, hstarts]
      dsimp only
      split
      · exact List.sublist_append_left _ _
      · exact List.nil_sublist _
    | none =>
      have hnothing : t.dispatched c = [] := by
        rw [dispatched, hstarts, hcreated]
        exact if_neg nofun
      rw [hnothing, List.nil_append, ← accepted_singleton, ← accepted_append]
      split
      · exact List.Sublist.refl _
      · exact List.nil_sublist _
  · rw [if_neg hcreated, if_neg (state_append_ne_created hcreated [c]), List.append_nil,
      List.nil_append, dispatched]
    cases c.starts? with
    | some signal =>
      dsimp only
      rw [if_neg fun h => hcreated h.1]
      exact List.nil_sublist _
    | none =>
      dsimp only
      split
      · exact List.Sublist.refl _
      · exact List.nil_sublist _

theorem heard_sublist (stop : SignalId) (t u : FeedLog ε) :
    (heard stop t u).Sublist (t.queued ++ FeedLog.accepted u) := by
  induction u generalizing t with
  | nil => exact List.nil_sublist _
  | cons c u ih =>
    have hsent : List.Sublist (if t.reaches stop then t.dispatched c else []) (t.dispatched c) := by
      split
      · exact List.Sublist.refl _
      · exact List.nil_sublist _
    have hcall := (t.dispatched_append_queued_sublist c).append_right (FeedLog.accepted u)
    have haccepted : FeedLog.accepted (c :: u) = c.accepted?.toList ++ FeedLog.accepted u := by
      rw [← accepted_singleton, ← accepted_append, List.singleton_append]
    rw [List.append_assoc, List.append_assoc, ← haccepted] at hcall
    exact (hsent.append (ih _)).trans hcall

/-- What is sent was accepted, and is sent once, in the order in which it was accepted. -/
theorem heard_sublist_accepted (stop : SignalId) (t u : FeedLog ε) :
    (heard stop t u).Sublist (FeedLog.accepted (t ++ u)) := by
  have hqueued : t.queued.Sublist t.accepted := by
    rw [queued]
    split
    · exact List.Sublist.refl _
    · exact List.nil_sublist _
  rw [accepted_append]
  exact (heard_sublist stop t u).trans (hqueued.append_right _)

/-! ### Subscriptions that have ended -/

theorem reaches_eq_false_of_stopped (h : t.stopped = true) : t.reaches stop = false := by
  rw [reaches, state_eq_stopped_iff.2 h]
  rfl

/-- What has ended does not begin again. -/
theorem reaches_append_eq_false (h : t.reaches stop = false) (u : FeedLog ε) :
    FeedLog.reaches (t ++ u) stop = false := by
  by_cases hfired : t.fired stop = true
  · rw [reaches, fired_append, hfired, Bool.true_or, Bool.not_true, Bool.and_false]
  · have hstopped : t.stopped = true := by
      rw [← state_eq_stopped_iff]
      simpa [reaches, hfired] using h
    exact reaches_eq_false_of_stopped (stopped_append hstopped u)

theorem heard_eq_nil (h : t.reaches stop = false) (u : FeedLog ε) : heard stop t u = [] := by
  induction u generalizing t with
  | nil => rfl
  | cons c u ih =>
    rw [heard, h, ih (reaches_append_eq_false h [c])]
    rfl

theorem reaches_eq_false_of_close {c : FeedCall ε} (hc : c ∈ t) (hclose : c.request = .close) :
    t.reaches stop = false := by
  refine reaches_eq_false_of_stopped ((stopped_iff t).2 (.inl ⟨c, hc, ?_⟩))
  rw [FeedCall.closes, hclose]

theorem reaches_eq_false_of_fire {c : FeedCall ε} (hc : c ∈ t) (hfire : c.request = .fire stop) :
    t.reaches stop = false := by
  have hfired : t.fired stop = true := by
    refine List.any_eq_true.2 ⟨c, hc, ?_⟩
    rw [FeedCall.fires, hfire]
    exact beq_self_eq_true stop
  rw [reaches, hfired, Bool.not_true, Bool.and_false]

/-! ### A feed does what its log tells -/

namespace Tells

theorem reaches_eq (h : t.Tells f) (stop : SignalId) : f.reaches stop = t.reaches stop := by
  rw [Feed.reaches, h.state_eq, h.fired_eq, FeedLog.reaches]

theorem dispatched_accept (h : t.Tells f) {c : FeedCall ε} (hstarts : c.starts? = none)
    (refusal : FeedError) {e : ε} (hok : (f.accept refusal e).1 = .ok () → c.accepted? = some e) :
    t.dispatched c = if f.state = .running then [e] else [] := by
  rw [dispatched, hstarts, h.state_eq]
  by_cases hrunning : t.state = .running
  · have haccept : f.accept refusal e = (.ok (), f.dispatch e) :=
      Feed.accept_of_running (h.state_eq.trans hrunning)
    rw [if_pos hrunning, if_pos hrunning, hok (by rw [haccept])]
    rfl
  · rw [if_neg hrunning, if_neg hrunning]

/-- What is sent can be told from the calls. -/
theorem dispatched_eq (h : t.Tells f) (r : FeedRequest ε) :
    t.dispatched ⟨r, (f.step r).1⟩ = f.sends r := by
  have hidle : (if t.state = .running then ([] : List ε) else []) = [] := ite_self _
  cases r with
  | publish e =>
    refine h.dispatched_accept rfl (.timeout f.settings.sendTimeout) fun hok => ?_
    simp only [FeedCall.accepted?, Feed.step, Feed.publish, hok]
  | tryPublish e =>
    refine h.dispatched_accept rfl .full fun hok => ?_
    simp only [FeedCall.accepted?, Feed.step, Feed.tryPublish, hok]
  | start signal =>
    rw [Feed.sends, h.state_eq, h.fired_eq]
    change (if _ then _ else _) = _
    by_cases hstarts : t.state = .created ∧ t.fired signal = false
    · rw [if_pos hstarts, if_pos hstarts, h.ingress_eq (h.state_eq.trans hstarts.1)]
    · rw [if_neg hstarts, if_neg hstarts]
  | close | fire signal | subscribe signal capacity | dropSubscription id | receive id n =>
    exact hidle

end Tells

end FeedLog

namespace Subscription

/-- Events that arrive one by one at an attached output leave the newest of them. -/
theorem foldl_deliver_of_attached {s : Subscription ε} (h : s.attached = true)
    (hroom : s.buffer.length ≤ s.capacity) (es : List ε) :
    es.foldl deliver s = { s with buffer := newest s.capacity (s.buffer ++ es) } := by
  induction es generalizing s with
  | nil =>
    rw [List.append_nil, newest_of_length_le hroom]
    rfl
  | cons e es ih =>
    have he : s.deliver e = { s with buffer := newest s.capacity (s.buffer ++ [e]) } := by
      rw [deliver, if_pos h]
    have hroom' : (newest s.capacity (s.buffer ++ [e])).length ≤ s.capacity := by
      rw [length_newest]
      exact Nat.min_le_left _ _
    have hrest := ih (s := { s with buffer := newest s.capacity (s.buffer ++ [e]) }) h hroom'
    rw [List.foldl_cons, he, hrest]
    dsimp only
    rw [newest_newest_append, List.append_assoc, List.singleton_append]

theorem foldl_deliver_of_detached {s : Subscription ε} (h : s.attached = false) (es : List ε) :
    es.foldl deliver s = s := by
  induction es with
  | nil => rfl
  | cons e es ih =>
    have he : s.deliver e = s := by
      rw [deliver, h]
      rfl
    rw [List.foldl_cons, he, ih]

end Subscription

/-! ### Runs -/

namespace Feed

variable {f f₀ : Feed ε} {t : FeedLog ε} {id : SubscriptionId} {stop : SignalId} {room : Nat}
  {sent got : List ε} {s : Subscription ε} {places : List Nat}

/-- What a feed holds for a subscription with a given signal and room, of the events sent to it and
the events read from it, which stand at the given places. -/
structure Hears (f : Feed ε) (id : SubscriptionId) (stop : SignalId) (room : Nat)
    (sent got : List ε) (s : Subscription ε) (places : List Nat) : Prop where
  found : f.subscription? id = some s
  stop_eq : s.stop = stop
  capacity_eq : s.capacity = room
  attached_eq : s.attached = f.reaches stop
  keeps : KeepsNewest room sent got s.buffer places

namespace Hears

/-- A call that does not read the subscription. -/
theorem step_of_unread (h : f.Hears id stop room sent got s places) {r : FeedRequest ε}
    (hdrop : r ≠ .dropSubscription id) (hread : ∀ n, r ≠ .receive id n) :
    ∃ s', (f.step r).2.Hears id stop room
      (sent ++ if f.reaches stop then f.sends r else []) got s' places := by
  have hattached : s.attached = f.reaches s.stop := h.stop_eq ▸ h.attached_eq
  have hfound := subscription?_step h.found hattached hdrop hread
  have hreaches : (f.step r).2.reaches s.stop = (f.step r).2.reaches stop := by rw [h.stop_eq]
  cases hs : s.attached with
  | true =>
    have hroom : s.buffer.length ≤ s.capacity := h.capacity_eq ▸ h.keeps.length_waiting_le
    rw [Subscription.foldl_deliver_of_attached hs hroom] at hfound
    refine ⟨_, hfound, h.stop_eq, h.capacity_eq, hreaches, ?_⟩
    rw [if_pos (h.attached_eq ▸ hs), ← h.capacity_eq]
    exact (h.capacity_eq ▸ h.keeps).arrive _
  | false =>
    rw [Subscription.foldl_deliver_of_detached hs] at hfound
    refine ⟨_, hfound, h.stop_eq, h.capacity_eq, hreaches, ?_⟩
    rw [← h.attached_eq, hs, if_neg Bool.false_ne_true, List.append_nil]
    exact h.keeps

theorem answer_receive (h : f.Hears id stop room sent got s places) (n : Nat) :
    (f.step (.receive id n)).1 = .received (some (s.buffer.take n,
      if n ≤ s.buffer.length then .satisfied
      else if f.reaches stop then .drained else .disconnected)) := by
  rw [Feed.step, receive_eq, h.found, Option.map_some, h.attached_eq]

/-- A call that reads the subscription. -/
theorem step_of_read (h : f.Hears id stop room sent got s places) (n : Nat) :
    ∃ s' places', (f.step (.receive id n)).2.Hears id stop room sent (got ++ s.buffer.take n) s'
      places' := by
  have hfound := subscription?_receive h.found n
  refine ⟨_, _, hfound, h.stop_eq, h.capacity_eq, ?_, h.keeps.read n⟩
  rw [snd_step_receive]
  exact h.attached_eq

/-- One more call, told from the log. -/
theorem step (h : f.Hears id stop room sent got s places) (ht : t.Tells f) {r : FeedRequest ε}
    (hdrop : r ≠ .dropSubscription id) :
    ∃ s' places', (f.step r).2.Hears id stop room
      (sent ++ if t.reaches stop then t.dispatched ⟨r, (f.step r).1⟩ else [])
      (got ++ FeedCall.read id ⟨r, (f.step r).1⟩) s' places' := by
  rw [ht.dispatched_eq, ← ht.reaches_eq]
  by_cases hread : ∃ n, r = .receive id n
  · obtain ⟨n, rfl⟩ := hread
    have hgot : FeedCall.read id ⟨.receive id n, (f.step (.receive id n)).1⟩ = s.buffer.take n := by
      rw [h.answer_receive]
      exact if_pos rfl
    have hsends : (if f.reaches stop then f.sends (.receive id n) else []) = [] := ite_self _
    rw [hgot, hsends, List.append_nil]
    exact h.step_of_read n
  · have hgot : FeedCall.read id ⟨r, (f.step r).1⟩ = [] := by
      cases r with
      | receive other n =>
        have hother : other ≠ id := fun hsame => hread ⟨n, by rw [hsame]⟩
        cases hanswer : (f.receive other n).1 with
        | none => simp only [FeedCall.read, Feed.step, hanswer]
        | some got => simp only [FeedCall.read, Feed.step, hanswer, if_neg hother]
      | _ => rfl
    obtain ⟨s', hs'⟩ := h.step_of_unread hdrop fun n hn => hread ⟨n, hn⟩
    rw [hgot, List.append_nil]
    exact ⟨s', places, hs'⟩

/-- What a subscription has after a run that does not drop it. -/
theorem run (h : f.Hears id stop room sent got s places) (ht : t.Tells f)
    {rs : List (FeedRequest ε)} (hdrop : .dropSubscription id ∉ rs) :
    ∃ s' places', (f.run rs).Hears id stop room (sent ++ FeedLog.heard stop t (f.log rs))
      (got ++ FeedLog.read id (f.log rs)) s' places' := by
  induction rs generalizing f t sent got s places with
  | nil =>
    refine ⟨s, places, ?_⟩
    rw [log, FeedLog.heard, FeedLog.read, List.flatMap_nil, List.append_nil, List.append_nil]
    exact h
  | cons r rs ih =>
    rw [List.mem_cons, not_or] at hdrop
    obtain ⟨s', places', hs'⟩ := h.step ht (Ne.symm hdrop.1)
    have hrest := ih hs' (ht.step r) hdrop.2
    rw [List.append_assoc, List.append_assoc] at hrest
    exact hrest

/-- From now on, what the output holds may be taken for all that was ever sent. -/
theorem afresh (h : f.Hears id stop room sent got s places) :
    f.Hears id stop room s.buffer [] s [] :=
  { h with keeps := .of_length_le h.keeps.length_waiting_le }

/-- What is left in an output that nothing reaches any more is read to the end. -/
theorem run_of_ended (h : f.Hears id stop room sent got s places) (ht : t.Tells f)
    (hended : t.reaches stop = false) {rs : List (FeedRequest ε)}
    (hdrop : .dropSubscription id ∉ rs) :
    ∃ s', (f.run rs).subscription? id = some s' ∧
      FeedLog.read id (f.log rs) ++ s'.buffer = s.buffer ∧
      ∀ n, s'.buffer.length < n → ((f.run rs).step (.receive id n)).1 =
        .received (some (s'.buffer, .disconnected)) := by
  obtain ⟨s', places', hs'⟩ := h.afresh.run ht hdrop
  rw [FeedLog.heard_eq_nil hended, List.append_nil, List.nil_append] at hs'
  have hall := hs'.keeps.length_le_of_room h.keeps.length_waiting_le
  refine ⟨s', hs'.found, hs'.keeps.append_eq hall, fun n hn => ?_⟩
  have hreaches : (f.run rs).reaches stop = false := by
    rw [(ht.run rs).reaches_eq]
    exact FeedLog.reaches_append_eq_false hended _
  rw [hs'.answer_receive, List.take_of_length_le (Nat.le_of_lt hn), if_neg (Nat.not_le_of_lt hn),
    hreaches]
  rfl

end Hears

/-- A subscription that was just made has heard of nothing. -/
theorem hears_subscribe {settings : FeedSettings} (hmake : make settings = .ok f₀)
    (pre : List (FeedRequest ε)) (stop : SignalId) (capacity : Nat) {id : SubscriptionId}
    (hid : ((f₀.run pre).step (.subscribe stop capacity)).1 = .subscribed id) :
    ∃ s,
      (f₀.run (pre ++ [.subscribe stop capacity])).Hears id stop (max capacity 1) [] [] s [] := by
  obtain rfl : (f₀.run pre).nextId = id := by
    injection hid
  rw [run_concat]
  have hfound := subscription?_subscribe (numbered_run hmake pre) stop capacity
  exact ⟨_, hfound, rfl, rfl, rfl, .of_length_le (Nat.zero_le _)⟩

/-- In every run from a feed just made, accepted events are sent in the order of acceptance. Of
those sent to a subscription, it has read some, going forward, and its output holds the newest of
those that came after the last one read, as many as there is room for. Once the feed is closed or
the signal of the subscription has fired, what is left in the output is what can still be read, and
reading past it finds the subscription disconnected. -/
theorem keepsNewest_log {settings : FeedSettings} (hmake : make settings = .ok f₀)
    (pre post : List (FeedRequest ε)) (stop : SignalId) (capacity : Nat) (id : SubscriptionId)
    (hid : ((f₀.run pre).step (.subscribe stop capacity)).1 = .subscribed id)
    (hkept : .dropSubscription id ∉ post) :
    let f₁ := f₀.run (pre ++ [.subscribe stop capacity])
    let before := f₀.log (pre ++ [.subscribe stop capacity])
    let after := f₁.log post
    let f := f₁.run post
    (FeedLog.heard stop before after).Sublist (FeedLog.accepted (before ++ after)) ∧
    ∃ s places, f.subscription? id = some s ∧
      KeepsNewest (max capacity 1) (FeedLog.heard stop before after) (FeedLog.read id after)
        s.buffer places ∧
      (∀ n, (f.step (.receive id n)).1 = .received (some (s.buffer.take n,
        if n ≤ s.buffer.length then .satisfied
        else if FeedLog.reaches (before ++ after) stop then .drained else .disconnected))) ∧
      ((.close ∈ pre ++ post ∨ .fire stop ∈ pre ++ post) →
        ∀ more, .dropSubscription id ∉ more →
          ∃ s', (f.run more).subscription? id = some s' ∧
            FeedLog.read id (f.log more) ++ s'.buffer = s.buffer ∧
            ∀ n, s'.buffer.length < n → ((f.run more).step (.receive id n)).1 =
              .received (some (s'.buffer, .disconnected))) := by
  intro f₁ before after f
  have ht : before.Tells f₁ := tells_log hmake _
  have htf : FeedLog.Tells (before ++ after) f := ht.run post
  obtain ⟨s₁, hnew⟩ := hears_subscribe hmake pre stop capacity hid
  obtain ⟨s, places, hs⟩ := hnew.run ht hkept
  rw [List.nil_append, List.nil_append] at hs
  refine ⟨FeedLog.heard_sublist_accepted stop before after, s, places, hs.found, hs.keeps,
    fun n => ?_, fun hend more hmore => ?_⟩
  · rw [hs.answer_receive, htf.reaches_eq]
  · have hcalled {r : FeedRequest ε} (hr : r ∈ pre ++ post) :
        ∃ c ∈ before ++ after, c.request = r := by
      rcases List.mem_append.1 hr with hpre | hpost
      · obtain ⟨c, hc, hrequest⟩ := exists_mem_log f₀ (List.mem_append_left [_] hpre)
        exact ⟨c, List.mem_append_left _ hc, hrequest⟩
      · obtain ⟨c, hc, hrequest⟩ := exists_mem_log f₁ hpost
        exact ⟨c, List.mem_append_right _ hc, hrequest⟩
    have hended : FeedLog.reaches (before ++ after) stop = false := by
      rcases hend with hclose | hfire
      · obtain ⟨c, hc, hrequest⟩ := hcalled hclose
        exact FeedLog.reaches_eq_false_of_close hc hrequest
      · obtain ⟨c, hc, hrequest⟩ := hcalled hfire
        exact FeedLog.reaches_eq_false_of_fire hc hrequest
    exact hs.run_of_ended htf hended hmore

end Feed

end ClaimGrid
