import ClaimGrid.Proofs.Feed.Views

/-!
# A feed with one subscriber only

Take the other subscribers out of a feed, and one is left alone with the publishers and with whoever
starts and closes the feed. Every call of the others leaves the lone feed as it is, and every other
call does to the lone feed what it does to the feed, with the same answer. So what one subscriber
has to do with in a run is a run of the lone feed, in which a late start hands out the share of that
subscriber.

## Main definitions

* `Feed.alone`: a feed with one of its subscribers only.
* `Feed.sight`: what one subscriber finds in a feed.

## Main results

* `Feed.alone_stepSharing_of_view`, `Feed.alone_stepSharing_of_not_view`: one call.
* `Feed.alone_runSharing`, `Feed.sight_runSharing`: a run, and the run of the lone feed.
-/

namespace ClaimGrid

variable {ε : Type}

/-- The subscription under another name. -/
def Subscription.renamed (id : SubscriptionId) (s : Subscription ε) : Subscription ε :=
  { s with id := id }

namespace Feed

/-- The feed with the subscriber `id` only, in which no other signals than the given ones have
fired. -/
def alone (signals : List SignalId) (id : SubscriptionId) (f : Feed ε) : Feed ε :=
  { f with
    fired := f.fired.filter (· ∈ signals)
    subscriptions := (f.subscriptions.filter (·.id = id)).map (.renamed 0)
    nextId := if id < f.nextId then 1 else 0 }

/-- What the subscriber `id` finds in a feed: the state, whether its subscription is attached, and
what its output holds, if it was not dropped. -/
def sight (f : Feed ε) (id : SubscriptionId) : FeedState × Bool × Option (List ε) :=
  (f.state, (f.subscription? id).any (·.attached), (f.subscription? id).map (·.buffer))

/-- The signal that a feed runs under and the signal of the subscriber `id` are among the given
ones. -/
structure Heeds (signals : List SignalId) (id : SubscriptionId) (f : Feed ε) : Prop where
  guard_mem : ∀ signal, f.guard = some signal → signal ∈ signals
  stop_mem : ∀ s ∈ f.subscriptions, s.id = id → s.stop ∈ signals

variable {f f' : Feed ε} {r : FeedRequest ε} {signals : List SignalId} {id : SubscriptionId}
  {signal : SignalId}

/-! ### The lone feed -/

theorem contains_fired_alone (f : Feed ε) (id : SubscriptionId) (h : signal ∈ signals) :
    (f.alone signals id).fired.contains signal = f.fired.contains signal := by
  rw [alone, Bool.eq_iff_iff, List.contains_iff_mem, List.contains_iff_mem, List.mem_filter,
    decide_eq_true h]
  exact and_iff_left rfl

/-- What is done to all subscriptions alike is done to the lone one. -/
theorem subscriptions_alone_map {g : Subscription ε → Subscription ε}
    (hg : ∀ s, (g s).id = s.id) (hrenamed : ∀ s, (g s).renamed 0 = g (s.renamed 0))
    (h : f'.subscriptions = f.subscriptions.map g) :
    (f'.alone signals id).subscriptions = (f.alone signals id).subscriptions.map g := by
  change (f'.subscriptions.filter _).map _ = ((f.subscriptions.filter _).map _).map g
  rw [h, List.filter_map, List.map_map, List.map_map]
  simp only [Function.comp_def, hg, hrenamed]

/-- What is done to others is not done to the lone subscription. -/
theorem subscriptions_alone_map_of_foreign {g : Subscription ε → Subscription ε}
    (hg : ∀ s, (g s).id = s.id) (hforeign : ∀ s ∈ f.subscriptions, s.id = id → g s = s)
    (h : f'.subscriptions = f.subscriptions.map g) :
    (f'.alone signals id).subscriptions = (f.alone signals id).subscriptions := by
  change (f'.subscriptions.filter _).map _ = (f.subscriptions.filter _).map _
  rw [h, List.filter_map]
  simp only [Function.comp_def, hg]
  refine congrArg _ ((List.map_congr_left fun s hs => ?_).trans (List.map_id _))
  obtain ⟨hmem, hid⟩ := List.mem_filter.1 hs
  exact hforeign s hmem (of_decide_eq_true hid)

theorem renamed_foldl_deliver (es : List ε) (s : Subscription ε) :
    (es.foldl .deliver s).renamed 0 = es.foldl .deliver (s.renamed 0) := by
  induction es generalizing s with
  | nil => rfl
  | cons e es ih =>
    have hdeliver : (s.deliver e).renamed 0 = (s.renamed 0).deliver e := by
      rw [Subscription.deliver, Subscription.deliver]
      exact apply_ite _ _ _ _
    rw [List.foldl_cons, ih, hdeliver, List.foldl_cons]

/-! ### Calls that everybody has to do with -/

theorem alone_accept (f : Feed ε) (refusal : FeedError) (e : ε) :
    (f.accept refusal e).1 = ((f.alone signals id).accept refusal e).1 ∧
      (f.accept refusal e).2.alone signals id = ((f.alone signals id).accept refusal e).2 := by
  cases hstate : f.state with
  | created =>
    by_cases hroom : f.ingress.length < f.settings.ingressCapacity.toNat
    · rw [accept_of_room hstate hroom, accept_of_room (f := f.alone signals id) hstate hroom]
      exact ⟨rfl, rfl⟩
    · rw [accept_of_full hstate hroom, accept_of_full (f := f.alone signals id) hstate hroom]
      exact ⟨rfl, rfl⟩
  | running =>
    rw [accept_of_running hstate, accept_of_running (f := f.alone signals id) hstate]
    refine ⟨rfl, Feed.ext rfl rfl rfl rfl rfl ?_ rfl⟩
    exact subscriptions_alone_map (fun s => s.id_foldl_deliver [e]) (renamed_foldl_deliver [e]) rfl
  | stopped =>
    rw [accept_of_stopped hstate, accept_of_stopped (f := f.alone signals id) hstate]
    exact ⟨rfl, rfl⟩

theorem alone_close (f : Feed ε) : f.close.alone signals id = (f.alone signals id).close :=
  Feed.ext rfl rfl rfl rfl rfl
    (subscriptions_alone_map (g := .detach) (fun _ => rfl) (fun _ => rfl) rfl) rfl

/-- The first start counts, so its signal is one that everybody has to do with. -/
theorem alone_start (h : f.state = .created → signal ∈ signals) :
    (f.start signal).alone signals id = (f.alone signals id).start signal := by
  by_cases hcreated : f.state = .created
  · have hcontains := contains_fired_alone f id (h hcreated)
    cases hfired : f.fired.contains signal with
    | false =>
      rw [start_of_created hcreated hfired,
        start_of_created (f := f.alone signals id) hcreated (hcontains.trans hfired)]
      refine Feed.ext rfl rfl rfl rfl rfl ?_ rfl
      exact subscriptions_alone_map (fun s => s.id_foldl_deliver f.ingress)
        (renamed_foldl_deliver f.ingress) rfl
    | true =>
      rw [start_of_fired hcreated hfired,
        start_of_fired (f := f.alone signals id) hcreated (hcontains.trans hfired)]
      refine Feed.ext rfl rfl rfl rfl rfl ?_ rfl
      exact subscriptions_alone_map (g := .detach) (fun _ => rfl) (fun _ => rfl) rfl
  · rw [start_of_ne_created hcreated, start_of_ne_created (f := f.alone signals id) hcreated]

/-! ### Signals -/

theorem alone_fire_of_mem (h : signal ∈ signals) :
    (f.fire signal).alone signals id = (f.alone signals id).fire signal := by
  rw [fire_eq, fire_eq]
  refine Feed.ext rfl rfl rfl ?_ rfl ?_ rfl
  · dsimp only [alone]
    rw [List.filter_cons_of_pos]
    exact decide_eq_true h
  · refine subscriptions_alone_map (fun s => ?_) (fun s => ?_) rfl
    · split <;> rfl
    · exact apply_ite _ _ _ _

theorem alone_fire_of_not_mem (hheeds : f.Heeds signals id) (h : signal ∉ signals) :
    (f.fire signal).alone signals id = f.alone signals id := by
  have hunder : f.runsUnder signal = false := by
    rw [runsUnder, Bool.and_eq_false_iff, decide_eq_false_iff_not]
    exact .inr fun hguard => h (hheeds.guard_mem signal hguard)
  rw [fire_eq, hunder]
  refine Feed.ext rfl rfl rfl ?_ rfl ?_ rfl
  · dsimp only [alone]
    rw [List.filter_cons_of_neg]
    exact mt of_decide_eq_true h
  · refine subscriptions_alone_map_of_foreign (fun s => ?_) (fun s hs hid => ?_) rfl
    · split <;> rfl
    · refine if_neg fun hends => ?_
      rcases hends with hstop | hfalse
      · exact h (hstop ▸ hheeds.stop_mem s hs hid)
      · cases hfalse

/-! ### Subscribing, dropping and reading -/

theorem subscriptions_alone_append (signals : List SignalId) (id : SubscriptionId) (f : Feed ε)
    (s : Subscription ε) :
    ((f.subscriptions ++ [s]).filter (·.id = id)).map (.renamed 0) =
      (f.alone signals id).subscriptions ++ if s.id = id then [s.renamed 0] else [] := by
  rw [List.filter_append, List.map_append]
  refine congrArg _ ?_
  by_cases h : s.id = id
  · rw [if_pos h, List.filter_singleton, decide_eq_true h]
    rfl
  · rw [if_neg h, List.filter_singleton, decide_eq_false h]
    rfl

/-- The lone subscriber subscribes. -/
theorem alone_subscribe_self (h : f.nextId = id) (hstop : signal ∈ signals) (capacity : Nat) :
    (.subscribed 0 : FeedAnswer ε) =
        .subscribed ((f.alone signals id).subscribe signal capacity).1 ∧
      (f.subscribe signal capacity).2.alone signals id =
        ((f.alone signals id).subscribe signal capacity).2 := by
  have hnext : (f.alone signals id).nextId = 0 := if_neg (Nat.not_lt.2 (Nat.le_of_eq h))
  have hcontains := contains_fired_alone f id hstop
  rw [subscribe, subscribe, hnext, hcontains]
  refine ⟨rfl, Feed.ext rfl rfl rfl rfl rfl ?_ ?_⟩
  · refine (subscriptions_alone_append signals id f _).trans (congrArg _ ?_)
    exact if_pos h
  · exact if_pos (h ▸ Nat.lt_succ_self _)

/-- Somebody else subscribes. -/
theorem alone_subscribe_of_ne (h : f.nextId ≠ id) (stop : SignalId) (capacity : Nat) :
    (f.subscribe stop capacity).2.alone signals id = f.alone signals id := by
  refine Feed.ext rfl rfl rfl rfl rfl ?_ ?_
  · refine (subscriptions_alone_append signals id f _).trans ?_
    rw [if_neg h, List.append_nil]
  · change (if id < f.nextId + 1 then 1 else 0) = if id < f.nextId then 1 else 0
    have hlt : id < f.nextId + 1 ↔ id < f.nextId :=
      Nat.lt_succ_iff.trans ⟨fun hle => Nat.lt_of_le_of_ne hle h.symm, Nat.le_of_lt⟩
    exact if_congr hlt rfl rfl

/-- The lone subscriber is gone. -/
theorem alone_dropSubscription_self (f : Feed ε) :
    (f.dropSubscription id).alone signals id = (f.alone signals id).dropSubscription 0 := by
  refine Feed.ext rfl rfl rfl rfl rfl ?_ rfl
  change ((f.subscriptions.filter _).filter _).map _ = ((f.subscriptions.filter _).map _).filter _
  rw [List.filter_filter, List.filter_map, List.filter_filter]
  refine congrArg _ (List.filter_congr fun s _ => ?_)
  simp [Subscription.renamed]

theorem alone_dropSubscription_of_ne {other : SubscriptionId} (h : other ≠ id) (f : Feed ε) :
    (f.dropSubscription other).alone signals id = f.alone signals id := by
  refine Feed.ext rfl rfl rfl rfl rfl ?_ rfl
  change ((f.subscriptions.filter _).filter _).map _ = (f.subscriptions.filter _).map _
  rw [List.filter_filter]
  refine congrArg _ (List.filter_congr fun s _ => ?_)
  by_cases hid : s.id = id
  · simp [hid, h.symm]
  · simp [hid]

theorem subscription?_alone (f : Feed ε) :
    (f.alone signals id).subscription? 0 = (f.subscription? id).map (.renamed 0) := by
  change ((f.subscriptions.filter _).map _).find? _ = (f.subscriptions.find? _).map _
  rw [List.find?_map, List.find?_filter]
  refine congrArg _ (congrArg (List.find? · f.subscriptions) (funext fun s => ?_))
  simp [Subscription.renamed]

theorem alone_take_self (f : Feed ε) (n : Nat) :
    (f.take id n).alone signals id = (f.alone signals id).take 0 n := by
  refine Feed.ext rfl rfl rfl rfl rfl ?_ rfl
  change ((f.subscriptions.map _).filter _).map _ = ((f.subscriptions.filter _).map _).map _
  rw [List.filter_map, List.map_map, List.map_map]
  have hids (s : Subscription ε) :
      (if s.id = id then { s with buffer := s.buffer.drop n } else s).id = s.id := by
    split <;> rfl
  simp only [Function.comp_def, hids]
  refine List.map_congr_left fun s hs => ?_
  rw [if_pos (of_decide_eq_true (List.mem_filter.1 hs).2)]
  rfl

theorem alone_take_of_ne {other : SubscriptionId} (h : other ≠ id) (f : Feed ε) (n : Nat) :
    (f.take other n).alone signals id = f.alone signals id := by
  refine Feed.ext rfl rfl rfl rfl rfl ?_ rfl
  refine subscriptions_alone_map_of_foreign (fun s => ?_) (fun s _ hid => ?_) rfl
  · split <;> rfl
  · exact if_neg fun hother => h (hother.symm.trans hid)

/-- The lone subscriber reads. -/
theorem alone_receive_self (f : Feed ε) (n : Nat) :
    (f.receive id n).1 = ((f.alone signals id).receive 0 n).1 ∧
      (f.receive id n).2.alone signals id = ((f.alone signals id).receive 0 n).2 := by
  rw [receive_eq, receive_eq, subscription?_alone, Option.map_map]
  exact ⟨rfl, alone_take_self f n⟩

/-! ### Any call -/

/-- A call that the lone subscriber has to do with does to the lone feed what it does to the feed,
and the answer is the same. -/
theorem alone_step_of_view {c : FeedCall ε} (hstart : f.state = .created → ∀ signal,
      r = .start signal → signal ∈ signals)
    (hstop : ∀ stop capacity, c.request = .subscribe stop capacity → stop ∈ signals)
    (h : FeedCall.view? signals id ⟨r, (f.step r).1⟩ = some c) :
    c.answer = ((f.alone signals id).step c.request).1 ∧
      (f.step r).2.alone signals id = ((f.alone signals id).step c.request).2 := by
  cases r with
  | publish e | tryPublish e =>
    obtain rfl := Option.some.inj h
    exact (alone_accept f _ e).imp_left (congrArg FeedAnswer.published)
  | start signal =>
    obtain rfl := Option.some.inj h
    exact ⟨rfl, alone_start fun hcreated => hstart hcreated signal rfl⟩
  | close =>
    obtain rfl := Option.some.inj h
    exact ⟨rfl, alone_close f⟩
  | fire signal =>
    obtain ⟨hmem, rfl⟩ := Option.ite_some_none_eq_some.1 h
    exact ⟨rfl, alone_fire_of_mem hmem⟩
  | subscribe stop capacity =>
    obtain ⟨hid, rfl⟩ := Option.ite_some_none_eq_some.1 h
    exact alone_subscribe_self hid (hstop stop capacity rfl) capacity
  | dropSubscription other =>
    obtain ⟨rfl, rfl⟩ := Option.ite_some_none_eq_some.1 h
    exact ⟨rfl, alone_dropSubscription_self f⟩
  | receive other n =>
    obtain ⟨rfl, rfl⟩ := Option.ite_some_none_eq_some.1 h
    exact (alone_receive_self f n).imp_left (congrArg FeedAnswer.received)

/-- Any other call leaves the lone feed as it is. -/
theorem alone_step_of_not_view (hheeds : f.Heeds signals id)
    (h : FeedCall.view? signals id ⟨r, (f.step r).1⟩ = none) :
    (f.step r).2.alone signals id = f.alone signals id := by
  cases r with
  | publish e | tryPublish e | start signal | close => cases h
  | fire signal =>
    have hforeign : signal ∉ signals := fun hmem => by cases (if_pos hmem).symm.trans h
    exact alone_fire_of_not_mem hheeds hforeign
  | subscribe stop capacity =>
    have hother : f.nextId ≠ id := fun hid => by cases (if_pos hid).symm.trans h
    exact alone_subscribe_of_ne hother stop capacity
  | dropSubscription other =>
    have hother : other ≠ id := fun hid => by cases (if_pos hid).symm.trans h
    exact alone_dropSubscription_of_ne hother f
  | receive other n =>
    have hother : other ≠ id := fun hid => by cases (if_pos hid).symm.trans h
    rw [snd_step_receive]
    exact alone_take_of_ne hother f n

/-! ### The signals that matter -/

theorem Heeds.step (h : f.Heeds signals id)
    (hstart : f.state = .created → ∀ signal, r = .start signal → signal ∈ signals)
    (hstop : ∀ stop capacity, r = .subscribe stop capacity → f.nextId = id → stop ∈ signals) :
    (f.step r).2.Heeds signals id where
  guard_mem signal hsignal := by
    cases f.step_turns r with
    | stay _ _ hguard | stop _ hguard => exact h.guard_mem signal (hguard.symm.trans hsignal)
    | start other hr hcreated _ hguard =>
      obtain rfl : other = signal := Option.some.inj (hguard.symm.trans hsignal)
      exact hstart hcreated other hr
  stop_mem s' hs' hid := by
    obtain ⟨g, hg, hsubscriptions⟩ := f.subscriptions_step r
    rw [hsubscriptions, List.mem_append, List.mem_map] at hs'
    rcases hs' with ⟨s, hs, rfl⟩ | hnew
    · rw [hg.id_eq] at hid
      rw [hg.stop_eq]
      exact h.stop_mem s (List.mem_filter.1 hs).1 hid
    · cases r with
      | subscribe stop capacity =>
        obtain rfl := List.mem_singleton.1 hnew
        exact hstop stop capacity rfl hid
      | _ => exact absurd hnew List.not_mem_nil

/-! ### Late starts -/

variable {share : SubscriptionId → Nat}

/-- The lone subscriber gets its share. -/
theorem alone_shareOut (share : SubscriptionId → Nat) (signal : SignalId) (f : Feed ε) :
    (f.shareOut share signal).alone signals id =
      (f.alone signals id).shareOut (fun _ => share id) signal := by
  refine Feed.ext rfl rfl rfl rfl rfl ?_ rfl
  change ((f.subscriptions.map _).filter _).map _ = ((f.subscriptions.filter _).map _).map _
  rw [List.filter_map, List.map_map, List.map_map]
  have hids (s : Subscription ε) :
      ((f.ingress.take (share s.id)).foldl Subscription.deliver s).detach.id = s.id :=
    s.id_foldl_deliver _
  simp only [Function.comp_def, hids]
  refine List.map_congr_left fun s hs => ?_
  rw [of_decide_eq_true (List.mem_filter.1 hs).2]
  exact congrArg Subscription.detach (renamed_foldl_deliver _ s)

/-- A call that the lone subscriber has to do with does to the lone feed what it does to the feed,
and the answer is the same. -/
theorem alone_stepSharing_of_view {c : FeedCall ε} (hstart : f.state = .created → ∀ signal,
      r = .start signal → signal ∈ signals)
    (hstop : ∀ stop capacity, c.request = .subscribe stop capacity → stop ∈ signals)
    (h : FeedCall.view? signals id ⟨r, (f.stepSharing share r).1⟩ = some c) :
    c.answer = ((f.alone signals id).stepSharing (fun _ => share id) c.request).1 ∧
      (f.stepSharing share r).2.alone signals id =
        ((f.alone signals id).stepSharing (fun _ => share id) c.request).2 := by
  by_cases hlate : f.StartsLate r
  · obtain ⟨hcreated, signal, rfl, hfired⟩ := hlate
    obtain rfl := Option.some.inj h
    have hfired' := (contains_fired_alone f id (hstart hcreated signal rfl)).trans hfired
    rw [stepSharing_of_late hcreated hfired,
      stepSharing_of_late (f := f.alone signals id) hcreated hfired']
    exact ⟨rfl, alone_shareOut share signal f⟩
  · rw [stepSharing_of_not_late hlate] at h ⊢
    have hlone : ¬(f.alone signals id).StartsLate c.request := by
      rintro ⟨hcreated, signal, hrequest, hfired⟩
      have hr : r = .start signal := (FeedCall.request_of_view h (.inl hrequest)).trans hrequest
      rw [contains_fired_alone f id (hstart hcreated signal hr)] at hfired
      exact hlate ⟨hcreated, signal, hr, hfired⟩
    rw [stepSharing_of_not_late hlone]
    exact alone_step_of_view hstart hstop h

/-- Any other call leaves the lone feed as it is. -/
theorem alone_stepSharing_of_not_view (hheeds : f.Heeds signals id)
    (h : FeedCall.view? signals id ⟨r, (f.stepSharing share r).1⟩ = none) :
    (f.stepSharing share r).2.alone signals id = f.alone signals id := by
  have hlate : ¬f.StartsLate r := by
    rintro ⟨-, signal, rfl, -⟩
    cases h
  rw [stepSharing_of_not_late hlate] at h ⊢
  exact alone_step_of_not_view hheeds h

theorem Heeds.stepSharing (h : f.Heeds signals id)
    (hstart : f.state = .created → ∀ signal, r = .start signal → signal ∈ signals)
    (hstop : ∀ stop capacity, r = .subscribe stop capacity → f.nextId = id → stop ∈ signals) :
    (f.stepSharing share r).2.Heeds signals id := by
  by_cases hlate : f.StartsLate r
  · obtain ⟨hcreated, signal, rfl, hfired⟩ := hlate
    rw [stepSharing_of_late hcreated hfired]
    refine ⟨fun other hother => ?_, fun s' hs' hid => ?_⟩
    · obtain rfl := Option.some.inj hother
      exact hstart hcreated signal rfl
    · obtain ⟨s, hs, rfl⟩ := List.mem_map.1 hs'
      have hstop := s.stop_foldl_deliver (f.ingress.take (share s.id))
      have hname := s.id_foldl_deliver (f.ingress.take (share s.id))
      exact hstop ▸ h.stop_mem s hs (hname.symm.trans hid)
  · rw [stepSharing_of_not_late hlate]
    exact h.step hstart hstop

/-! ### Runs -/

variable {f₀ : Feed ε} {c : FeedSettings} {rs : List (FeedRequest ε)}

/-- What a subscriber has to do with in a run is a run of the lone feed. -/
theorem alone_runSharing (hheeds : f.Heeds signals id)
    (hstart : f.state = .created → ∀ signal,
      (f.logSharing share rs).signal? = some signal → signal ∈ signals)
    (hstop : ∀ stop capacity,
      .subscribe stop capacity ∈ (f.logSharing share rs).requests signals id → stop ∈ signals) :
    (f.logSharing share rs).view signals id = (f.alone signals id).logSharing (fun _ => share id)
        ((f.logSharing share rs).requests signals id) ∧
      (f.runSharing share rs).alone signals id = (f.alone signals id).runSharing
        (fun _ => share id) ((f.logSharing share rs).requests signals id) := by
  -- `Heeds` goes along with the feed: it keeps the signals of others away from the lone one
  induction rs generalizing f with
  | nil => exact ⟨rfl, rfl⟩
  | cons r rs ih =>
    have hlog : f.logSharing share (r :: rs) =
        ⟨r, (f.stepSharing share r).1⟩ :: (f.stepSharing share r).2.logSharing share rs := rfl
    rw [hlog] at hstart hstop ⊢
    have hstart' : f.state = .created → ∀ signal, r = .start signal → signal ∈ signals := by
      rintro hcreated signal rfl
      exact hstart hcreated signal rfl
    have hrest : (f.stepSharing share r).2.state = .created → ∀ signal,
        ((f.stepSharing share r).2.logSharing share rs).signal? = some signal →
          signal ∈ signals := by
      intro hcreated signal hsignal
      obtain ⟨hbefore, hr⟩ := created_of_stepSharing hcreated
      refine hstart hbefore signal ?_
      rw [FeedLog.signal?, List.findSome?_cons, FeedCall.starts?_eq, hr]
      exact hsignal
    rw [FeedLog.requests, FeedLog.view, List.filterMap_cons] at hstop ⊢
    change _ ∧ ((f.stepSharing share r).2.runSharing share rs).alone signals id = _
    cases hview : FeedCall.view? signals id ⟨r, (f.stepSharing share r).1⟩ with
    | none =>
      -- a call of somebody else: the lone feed waits
      rw [hview] at hstop
      have hheeds' : (f.stepSharing share r).2.Heeds signals id := by
        refine hheeds.stepSharing hstart' ?_
        rintro stop capacity rfl hid
        cases (if_pos hid).symm.trans hview
      rw [← alone_stepSharing_of_not_view hheeds hview]
      exact ih hheeds' hrest hstop
    | some c =>
      -- the lone feed takes the same call
      rw [hview] at hstop
      have hheeds' : (f.stepSharing share r).2.Heeds signals id := by
        refine hheeds.stepSharing hstart' ?_
        rintro stop capacity rfl hid
        obtain rfl := Option.some.inj ((if_pos hid).symm.trans hview)
        exact hstop stop capacity List.mem_cons_self
      obtain ⟨hanswer, halone⟩ := alone_stepSharing_of_view hstart'
        (fun stop capacity hc => hstop stop capacity (hc ▸ List.mem_cons_self)) hview
      obtain ⟨hviews, hrun⟩ := ih hheeds' hrest fun stop capacity hmem =>
        hstop stop capacity (List.mem_cons_of_mem _ hmem)
      rw [halone] at hviews hrun
      refine ⟨?_, hrun⟩
      change c :: FeedLog.view signals id _ = ⟨c.request, _⟩ :: Feed.logSharing _ _ _
      rw [← hanswer]
      exact congrArg _ hviews

theorem sight_alone (f : Feed ε) : (f.alone signals id).sight 0 = f.sight id := by
  rw [sight, subscription?_alone, Option.any_map, Option.map_map]
  rfl

/-- Feeds that differ in what their outputs hold look alike otherwise. -/
theorem sight_of_emptied (h : f.emptied = f'.emptied) (id : SubscriptionId) :
    (f.sight id).1 = (f'.sight id).1 ∧ (f.sight id).2.1 = (f'.sight id).2.1 := by
  have hstate : f.emptied.state = f'.emptied.state := congrArg Feed.state h
  exact ⟨hstate, any_attached_of_emptied h id⟩

/-- After any run from a feed just made, a subscriber finds what it would find alone, and has got
the same answers. -/
theorem sight_runSharing (hmake : make c = .ok f₀) (share : SubscriptionId → Nat)
    (rs : List (FeedRequest ε))
    (hcovers : FeedLog.Covers signals ((f₀.logSharing share rs).requests signals id)) :
    (f₀.logSharing share rs).view signals id =
        f₀.logSharing (fun _ => share id) ((f₀.logSharing share rs).requests signals id) ∧
      (f₀.runSharing share rs).sight id =
        (f₀.runSharing (fun _ => share id)
          ((f₀.logSharing share rs).requests signals id)).sight 0 := by
  have hheeds : f₀.Heeds signals id := by
    obtain rfl := make_eq_ok hmake
    exact ⟨nofun, fun s hs => absurd hs List.not_mem_nil⟩
  have halone : f₀.alone signals id = f₀ := by
    obtain rfl := make_eq_ok hmake
    rfl
  have hstart (signal : SignalId) (hsignal : (f₀.logSharing share rs).signal? = some signal) :
      signal ∈ signals :=
    hcovers.start_mem signal ((FeedLog.findSome?_requests signals id _).trans hsignal)
  obtain ⟨hview, hrun⟩ := alone_runSharing hheeds (fun _ => hstart) hcovers.stop_mem
  rw [halone] at hview hrun
  refine ⟨hview, ?_⟩
  rw [← sight_alone, hrun]

end Feed

end ClaimGrid
