import ClaimGrid.Feed.Request

/-!
# What the calls to a feed come to

Every call to a feed as one equation: the answer, and the fields that the call changes. Later proofs
read these equations and do not open the calls.

## Main results

* `Feed.accept_cases`: publishing.
* `Feed.start_of_created`, `Feed.start_of_fired`, `Feed.start_of_ne_created`: starting.
* `Feed.fire_eq`: a signal fires.
* `Feed.receive_eq`: reading.
-/

namespace ClaimGrid.Feed

variable {ε : Type} {f : Feed ε} {refusal : FeedError} {e : ε} {signal : SignalId}

/-- A feed just made is empty. -/
theorem make_eq_ok {c : FeedSettings} (h : make c = .ok f) :
    f = { settings := c, state := .created, guard := none, fired := [], ingress := [],
          subscriptions := [], nextId := 0 } := by
  rw [make] at h
  split at h
  · cases h
  · exact (Except.ok.inj h).symm

/-- Settings that pass the check make a feed. -/
theorem make_of_validate {c : FeedSettings} (h : c.validate = .ok ()) :
    ∃ f : Feed ε, make c = .ok f := by
  rw [make, h]
  exact ⟨_, rfl⟩

/-! ### Events on their way to the outputs -/

/-- Events that arrive one by one change the outputs only, each on its own. -/
theorem foldl_dispatch (f : Feed ε) (es : List ε) :
    es.foldl dispatch f =
      { f with subscriptions := f.subscriptions.map fun s => es.foldl .deliver s } := by
  induction es generalizing f with
  | nil => simp
  | cons e es ih =>
    rw [List.foldl_cons, ih]
    simp [dispatch, Function.comp_def]

/-! ### Publishing -/

theorem accept_of_running (h : f.state = .running) :
    f.accept refusal e = (.ok (), f.dispatch e) := by
  rw [accept, h]

theorem accept_of_room (h : f.state = .created)
    (hroom : f.ingress.length < f.settings.ingressCapacity.toNat) :
    f.accept refusal e = (.ok (), { f with ingress := f.ingress ++ [e] }) := by
  rw [accept, h]
  exact if_pos hroom

theorem accept_of_full (h : f.state = .created)
    (hfull : ¬f.ingress.length < f.settings.ingressCapacity.toNat) :
    f.accept refusal e = (.error refusal, f) := by
  rw [accept, h]
  exact if_neg hfull

theorem accept_of_stopped (h : f.state = .stopped) :
    f.accept refusal e = (.error .stopped, f) := by
  rw [accept, h]

/-- Publishing either queues the event, or sends it to the outputs, or leaves the feed. -/
theorem accept_cases (f : Feed ε) (refusal : FeedError) (e : ε) :
    (f.state = .created ∧ f.ingress.length < f.settings.ingressCapacity.toNat ∧
      f.accept refusal e = (.ok (), { f with ingress := f.ingress ++ [e] })) ∨
    (f.state = .running ∧ f.accept refusal e = (.ok (), f.dispatch e)) ∨
    ∃ cause, (f.state = .created → ¬f.ingress.length < f.settings.ingressCapacity.toNat) ∧
      f.state ≠ .running ∧ f.accept refusal e = (.error cause, f) := by
  by_cases hcreated : f.state = .created
  · by_cases hroom : f.ingress.length < f.settings.ingressCapacity.toNat
    · exact .inl ⟨hcreated, hroom, accept_of_room hcreated hroom⟩
    · refine .inr (.inr ⟨refusal, fun _ => hroom, ?_, accept_of_full hcreated hroom⟩)
      rw [hcreated]
      nofun
  · by_cases hrunning : f.state = .running
    · exact .inr (.inl ⟨hrunning, accept_of_running hrunning⟩)
    · have hstopped : f.state = .stopped := by
        cases hstate : f.state with
        | created => exact absurd hstate hcreated
        | running => exact absurd hstate hrunning
        | stopped => rfl
      refine .inr (.inr ⟨.stopped, fun h => absurd h hcreated, hrunning, ?_⟩)
      exact accept_of_stopped hstopped

/-- Publishing changes the queue and the outputs only. -/
theorem exists_snd_accept_eq (f : Feed ε) (refusal : FeedError) (e : ε) :
    ∃ ingress subscriptions, (f.accept refusal e).2 =
      { f with ingress := ingress, subscriptions := subscriptions } := by
  rcases f.accept_cases refusal e with ⟨-, -, h⟩ | ⟨-, h⟩ | ⟨cause, -, -, h⟩ <;> rw [h]
  · exact ⟨_, _, rfl⟩
  · exact ⟨_, _, rfl⟩
  · exact ⟨_, _, rfl⟩

/-! ### The life of a feed -/

/-- The start of a feed delivers what has been queued. -/
theorem start_of_created (h : f.state = .created) (hfired : f.fired.contains signal = false) :
    f.start signal =
      { f with
        state := .running, guard := some signal, ingress := []
        subscriptions := f.subscriptions.map fun s => f.ingress.foldl .deliver s } := by
  rw [start, h]
  simp only [hfired, Bool.false_eq_true, if_false, dispatchIngress, foldl_dispatch]

/-- A feed that is started under a signal that has fired stops at once. -/
theorem start_of_fired (h : f.state = .created) (hfired : f.fired.contains signal = true) :
    f.start signal =
      { f with
        state := .stopped, guard := some signal
        subscriptions := f.subscriptions.map fun s => s.detach } := by
  rw [start, h]
  simp only [hfired, if_true, close]

theorem start_of_ne_created (h : f.state ≠ .created) : f.start signal = f := by
  rw [start]
  cases hstate : f.state with
  | created => exact absurd hstate h
  | running | stopped => rfl

/-- Whether a signal is the one that the feed runs under. -/
def runsUnder (f : Feed ε) (signal : SignalId) : Bool :=
  f.isRunning && f.guard = some signal

/-- A signal that fires detaches those who listen to it, and everybody if the feed runs under it. -/
theorem fire_eq (f : Feed ε) (signal : SignalId) :
    f.fire signal =
      { f with
        state := if f.runsUnder signal then .stopped else f.state
        fired := signal :: f.fired
        subscriptions := f.subscriptions.map fun s =>
          if s.stop = signal ∨ f.runsUnder signal then s.detach else s } := by
  by_cases h : f.runsUnder signal
  · have hdetach (s : Subscription ε) :
        (if s.stop = signal then s.detach else s).detach = s.detach := by
      split <;> rfl
    simp only [runsUnder, isRunning] at h
    simp only [fire, isRunning, h, runsUnder, if_true, close, List.map_map, Function.comp_def,
      hdetach, or_true]
  · simp only [runsUnder, isRunning] at h
    simp only [fire, isRunning, h, runsUnder, Bool.false_eq_true, if_false, or_false]

/-! ### Reading -/

/-- Reading takes events out of one output, if it is there. -/
theorem receive_eq (f : Feed ε) (id : SubscriptionId) (n : Nat) :
    f.receive id n =
      ((f.subscription? id).map fun s => (s.buffer.take n,
        if n ≤ s.buffer.length then .satisfied else if s.attached then .drained else .disconnected),
      f.take id n) := by
  rw [receive]
  cases hs : f.subscription? id with
  | some s => rfl
  | none =>
    have hkept : f.subscriptions.map (fun s =>
        if s.id = id then { s with buffer := s.buffer.drop n } else s) = f.subscriptions := by
      refine (List.map_congr_left fun s hmem => ?_).trans (List.map_id _)
      have hne : s.id ≠ id := by simpa using List.find?_eq_none.1 hs s hmem
      exact if_neg hne
    rw [take, hkept]
    rfl

theorem snd_step_receive (f : Feed ε) (id : SubscriptionId) (n : Nat) :
    (f.step (.receive id n)).2 = f.take id n := by
  rw [step, receive_eq]

end ClaimGrid.Feed
