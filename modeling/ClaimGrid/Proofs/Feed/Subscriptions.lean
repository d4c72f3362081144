import ClaimGrid.Proofs.Feed.Outcome

/-!
# What a call does to a subscription

A call sends some events to the outputs, and may end some subscriptions. A subscription takes the
events in, if it is attached, and stays attached as long as the feed has not stopped and its own
signal has not fired. Nothing else changes it but reading and dropping.

## Main definitions

* `Feed.reaches`: events reach those who listen to a given signal.
* `Feed.sends`: the events that a request sends to the outputs.
* `Feed.Numbered`: the name of the next subscription is not in use.

## Main results

* `Feed.subscription?_step`: a call that neither reads nor drops the subscription.
* `Feed.subscription?_receive`: a call that reads it.
* `Feed.subscription?_subscribe`: the subscription that a call registers.
* `Feed.numbered_run`: every run, from a feed just made.
-/

namespace ClaimGrid

variable {ε : Type}

namespace Subscription

theorem id_foldl_deliver (s : Subscription ε) (es : List ε) : (es.foldl deliver s).id = s.id := by
  induction es generalizing s with
  | nil => rfl
  | cons e es ih =>
    rw [List.foldl_cons, ih, deliver]
    split <;> rfl

theorem stop_foldl_deliver (s : Subscription ε) (es : List ε) :
    (es.foldl deliver s).stop = s.stop := by
  induction es generalizing s with
  | nil => rfl
  | cons e es ih =>
    rw [List.foldl_cons, ih, deliver]
    split <;> rfl

theorem attached_foldl_deliver (s : Subscription ε) (es : List ε) :
    (es.foldl deliver s).attached = s.attached := by
  induction es generalizing s with
  | nil => rfl
  | cons e es ih =>
    rw [List.foldl_cons, ih, deliver]
    split <;> rfl

end Subscription

namespace Feed

variable {f f' : Feed ε} {r : FeedRequest ε} {id : SubscriptionId} {s : Subscription ε}
  {stop signal : SignalId}

/-- Whether events reach those who listen to a signal: the feed has not stopped, and the signal has
not fired. -/
def reaches (f : Feed ε) (stop : SignalId) : Bool := f.state ≠ .stopped && !f.fired.contains stop

/-- The events that a request sends to the outputs: a running feed sends what is published, and the
start sends what has been queued, unless its signal has fired. -/
def sends (f : Feed ε) : FeedRequest ε → List ε
  | .publish e | .tryPublish e => if f.state = .running then [e] else []
  | .start signal =>
      if f.state = .created ∧ f.fired.contains signal = false then f.ingress else []
  | _ => []

/-- A feed that sends events runs. -/
theorem state_step_of_sends (h : f.sends r ≠ []) : (f.step r).2.state = .running := by
  have haccept (refusal : FeedError) (e : ε)
      (h : (if f.state = .running then [e] else []) ≠ []) :
      (f.accept refusal e).2.state = .running := by
    have hrunning : f.state = .running :=
      Decidable.byContradiction fun hidle => h (if_neg hidle)
    rw [accept_of_running hrunning]
    exact hrunning
  cases r with
  | publish e | tryPublish e => exact haccept _ e h
  | start signal =>
    have hstarts : f.state = .created ∧ f.fired.contains signal = false :=
      Decidable.byContradiction fun hidle => h (if_neg hidle)
    change (f.start signal).state = .running
    rw [start_of_created hstarts.1 hstarts.2]
  | _ => exact absurd rfl h

/-! ### Finding a subscription again -/

/-- What is done to all subscriptions alike is done to each. -/
theorem subscription?_map (f f' : Feed ε) (id : SubscriptionId)
    {g : Subscription ε → Subscription ε} (hg : ∀ s, (g s).id = s.id)
    (h : f'.subscriptions = f.subscriptions.map g) :
    f'.subscription? id = (f.subscription? id).map g := by
  rw [subscription?, h, List.find?_map, subscription?]
  simp only [Function.comp_def, hg]

theorem id_of_subscription? (h : f.subscription? id = some s) : s.id = id := by
  simpa using List.find?_some h

/-! ### One call -/

/-- An event for the outputs reaches the attached ones. -/
theorem subscription?_accept (h : f.subscription? id = some s) (refusal : FeedError) (e : ε) :
    (f.accept refusal e).2.subscription? id =
      some ((if f.state = .running then [e] else []).foldl .deliver s) := by
  rcases f.accept_cases refusal e with ⟨hcreated, -, haccept⟩ | ⟨hrunning, haccept⟩ |
    ⟨cause, -, hrunning, haccept⟩
  · have hrunning : f.state ≠ .running := fun hrunning => by
      rw [hcreated] at hrunning
      cases hrunning
    rw [haccept, if_neg hrunning]
    exact h
  · have hmap := subscription?_map f (f.dispatch e) id
      (fun s => s.id_foldl_deliver [e]) rfl
    rw [haccept, if_pos hrunning, hmap, h]
    rfl
  · rw [haccept, if_neg hrunning]
    exact h

theorem reaches_accept (f : Feed ε) (refusal : FeedError) (e : ε) :
    (f.accept refusal e).2.reaches stop = f.reaches stop := by
  obtain ⟨ingress, subscriptions, haccept⟩ := f.exists_snd_accept_eq refusal e
  rw [haccept]
  rfl

/-- The start sends what has been queued, or ends every subscription. -/
theorem subscription?_start (h : f.subscription? id = some s)
    (hattached : s.attached = f.reaches s.stop) (signal : SignalId) :
    (f.start signal).subscription? id =
      some { (f.sends (.start signal)).foldl .deliver s with
        attached := (f.start signal).reaches s.stop } := by
  by_cases hcreated : f.state = .created
  · cases hfired : f.fired.contains signal with
    | false =>
      have hstart := start_of_created hcreated hfired
      have hsends : f.sends (.start signal) = f.ingress := if_pos ⟨hcreated, hfired⟩
      have hreaches : (f.start signal).reaches s.stop = s.attached := by
        rw [hattached, reaches, reaches, hstart, hcreated]
        rfl
      have hmap := subscription?_map f (f.start signal) id
        (fun s => s.id_foldl_deliver f.ingress) (by rw [hstart])
      rw [hmap, h, hreaches, hsends, ← s.attached_foldl_deliver f.ingress]
      rfl
    | true =>
      have hstart := start_of_fired hcreated hfired
      have hsends : f.sends (.start signal) = [] := if_neg fun hboth => by
        rw [hfired] at hboth
        cases hboth.2
      have hmap := subscription?_map f (f.start signal) id
        (g := fun s => s.detach) (fun _ => rfl) (by rw [hstart])
      rw [hmap, h, hsends, hstart]
      rfl
  · have hsends : f.sends (.start signal) = [] := if_neg fun hboth => hcreated hboth.1
    rw [start_of_ne_created hcreated, h, hsends, ← hattached]
    rfl

/-- A signal that fires ends the subscriptions that listen to it, and all of them if the feed runs
under it. -/
theorem subscription?_fire (h : f.subscription? id = some s)
    (hattached : s.attached = f.reaches s.stop) (signal : SignalId) :
    (f.fire signal).subscription? id =
      some { s with attached := (f.fire signal).reaches s.stop } := by
  have hfire := f.fire_eq signal
  have hmap := subscription?_map f (f.fire signal) id
    (g := fun s => if s.stop = signal ∨ f.runsUnder signal then s.detach else s)
    (fun s => by split <;> rfl) (by rw [hfire])
  rw [hmap, h, Option.map_some, hfire, reaches]
  by_cases hends : s.stop = signal ∨ f.runsUnder signal = true
  · rw [if_pos hends]
    have hreach :
        (decide ((if f.runsUnder signal then FeedState.stopped else f.state) ≠ .stopped) &&
          !(signal :: f.fired).contains s.stop) = false := by
      rcases hends with hstop | hunder
      · simp [hstop]
      · simp [hunder]
    rw [hreach]
    rfl
  · rw [if_neg hends]
    rw [not_or] at hends
    have hreach :
        (decide ((if f.runsUnder signal then FeedState.stopped else f.state) ≠ .stopped) &&
          !(signal :: f.fired).contains s.stop) = f.reaches s.stop := by
      rw [if_neg hends.2, List.contains_cons, beq_eq_false_iff_ne.2 hends.1, Bool.false_or, reaches]
    rw [hreach, ← hattached]

/-- A call that neither reads a subscription nor drops it sends it events and may end it. -/
theorem subscription?_step (h : f.subscription? id = some s)
    (hattached : s.attached = f.reaches s.stop) (hdrop : r ≠ .dropSubscription id)
    (hread : ∀ n, r ≠ .receive id n) :
    (f.step r).2.subscription? id =
      some { (f.sends r).foldl .deliver s with attached := (f.step r).2.reaches s.stop } := by
  have hid := id_of_subscription? h
  have hkept : some { s with attached := f.reaches s.stop } = some s := by rw [← hattached]
  have hpublish (refusal : FeedError) (e : ε) : (f.accept refusal e).2.subscription? id =
      some { (f.sends (.publish e)).foldl .deliver s with
        attached := (f.accept refusal e).2.reaches s.stop } := by
    rw [subscription?_accept h, reaches_accept, ← hattached,
      ← s.attached_foldl_deliver (f.sends (.publish e))]
    rfl
  cases r with
  | publish e | tryPublish e => exact hpublish _ e
  | start signal => exact subscription?_start h hattached signal
  | close =>
    have hmap := subscription?_map f (f.close) id
      (g := fun s => s.detach) (fun _ => rfl) rfl
    exact hmap.trans (congrArg _ h)
  | fire signal => exact subscription?_fire h hattached signal
  | subscribe signal capacity =>
    rw [subscription?] at h
    have hfound : (f.subscribe signal capacity).2.subscription? id = some s := by
      rw [subscription?, subscribe, List.find?_append, h, Option.some_or]
    exact hfound.trans hkept.symm
  | dropSubscription other =>
    have hother : id ≠ other := fun hsame => hdrop (congrArg _ hsame.symm)
    have hfound : (f.dropSubscription other).subscription? id = some s := by
      rw [subscription?, dropSubscription, List.find?_filter, ← h, subscription?]
      refine congrArg (List.find? · f.subscriptions) (funext fun s => ?_)
      by_cases hs : s.id = id
      · simp [hs, hother]
      · simp [hs]
    exact hfound.trans hkept.symm
  | receive other n =>
    have hother : s.id ≠ other := fun hsame => hread n (by rw [← hid, hsame])
    have hmap := subscription?_map f (f.take other n) id
      (g := fun s => if s.id = other then { s with buffer := s.buffer.drop n } else s)
      (fun s => by split <;> rfl) rfl
    have hfound : (f.take other n).subscription? id = some s := by
      rw [hmap, h, Option.map_some, if_neg hother]
    rw [snd_step_receive, hfound]
    exact hkept.symm

/-- Reading takes the oldest events out. -/
theorem subscription?_receive (h : f.subscription? id = some s) (n : Nat) :
    (f.step (.receive id n)).2.subscription? id = some { s with buffer := s.buffer.drop n } := by
  have hmap := subscription?_map f (f.take id n) id
    (g := fun s => if s.id = id then { s with buffer := s.buffer.drop n } else s)
    (fun s => by split <;> rfl) rfl
  rw [snd_step_receive, hmap, h, Option.map_some, if_pos (id_of_subscription? h)]

/-- A subscription that was dropped is not there any more. -/
theorem subscription?_dropSubscription (f : Feed ε) (id : SubscriptionId) :
    (f.dropSubscription id).subscription? id = none := by
  refine List.find?_eq_none.2 fun s hs => ?_
  have hne := (List.mem_filter.1 hs).2
  simpa using hne

/-! ### A new subscription -/

/-- The name of the next subscription is not in use. -/
def Numbered (f : Feed ε) : Prop := ∀ s ∈ f.subscriptions, s.id < f.nextId

theorem Numbered.of_map (h : f.Numbered) {g : Subscription ε → Subscription ε}
    (hg : ∀ s, (g s).id = s.id) (hmap : f'.subscriptions = f.subscriptions.map g)
    (hnext : f'.nextId = f.nextId) : f'.Numbered := by
  intro s' hs'
  rw [hmap] at hs'
  obtain ⟨s, hs, rfl⟩ := List.mem_map.1 hs'
  rw [hg, hnext]
  exact h s hs

theorem Numbered.accept (h : f.Numbered) (refusal : FeedError) (e : ε) :
    (f.accept refusal e).2.Numbered := by
  rcases f.accept_cases refusal e with ⟨-, -, haccept⟩ | ⟨-, haccept⟩ | ⟨cause, -, -, haccept⟩
  · rw [haccept]
    exact h
  · rw [haccept]
    exact h.of_map (fun s => s.id_foldl_deliver [e]) rfl rfl
  · rw [haccept]
    exact h

theorem Numbered.start (h : f.Numbered) (signal : SignalId) : (f.start signal).Numbered := by
  by_cases hcreated : f.state = .created
  · cases hfired : f.fired.contains signal with
    | false =>
      rw [start_of_created hcreated hfired]
      exact h.of_map (fun s => s.id_foldl_deliver f.ingress) rfl rfl
    | true =>
      rw [start_of_fired hcreated hfired]
      exact h.of_map (fun s => by rfl) rfl rfl
  · rw [start_of_ne_created hcreated]
    exact h

theorem Numbered.step (h : f.Numbered) (r : FeedRequest ε) : (f.step r).2.Numbered := by
  cases r with
  | publish e | tryPublish e => exact h.accept _ e
  | start signal => exact h.start signal
  | close => exact h.of_map (g := .detach) (fun _ => rfl) rfl rfl
  | fire signal =>
    change (f.fire signal).Numbered
    rw [fire_eq]
    exact h.of_map (fun s => by split <;> rfl) rfl rfl
  | subscribe signal capacity =>
    intro s hs
    change s.id < f.nextId + 1
    rcases List.mem_append.1 hs with hold | hnew
    · exact Nat.lt_succ_of_lt (h s hold)
    · rw [List.mem_singleton.1 hnew]
      exact Nat.lt_succ_self _
  | dropSubscription id => exact fun s hs => h s (List.mem_filter.1 hs).1
  | receive id n =>
    rw [snd_step_receive]
    exact h.of_map (fun s => by split <;> rfl) rfl rfl

theorem numbered_run {c : FeedSettings} {f₀ : Feed ε} (hmake : make c = .ok f₀)
    (rs : List (FeedRequest ε)) : (f₀.run rs).Numbered := by
  have hnew : f₀.Numbered := by
    rw [make_eq_ok hmake]
    exact fun s hs => absurd hs List.not_mem_nil
  exact List.foldlRecOn rs _ hnew fun f h r _ => Numbered.step h r

/-- A new subscription is empty, has room for one event at least, and hears what is sent, unless
its signal has fired or the feed has stopped. -/
theorem subscription?_subscribe (h : f.Numbered) (signal : SignalId) (capacity : Nat) :
    (f.step (.subscribe signal capacity)).2.subscription? f.nextId =
      some { id := f.nextId, stop := signal, capacity := max capacity 1, buffer := [],
             attached := f.reaches signal } := by
  have hfree : f.subscriptions.find? (·.id = f.nextId) = none := by
    refine List.find?_eq_none.2 fun s hs => ?_
    have hne := Nat.ne_of_lt (h s hs)
    simpa using hne
  change (f.subscriptions ++ _).find? _ = _
  rw [List.find?_append, hfree, Option.none_or, List.find?_cons_of_pos]
  · rfl
  · simp

end Feed

end ClaimGrid
