import ClaimGrid.Proofs.Feed.Phases

/-!
# The life of a feed

A feed is created, may be started, and is stopped for good. The requests alone say where it stands:
the first start counts, if nothing closed the feed before, and every later start is ignored. The
subscriptions come and go with three kinds of calls, and are counted while their signals are silent.

## Main definitions

* `FeedState.Moves`: the ways of a state.
* `Feed.Turns`: what a call does to the state and to the signal that the feed runs under.
* `FeedRequest.KeepRunning`: requests after which a feed runs.
* `FeedLog.kept`: the subscriptions that were made and not dropped since, with their signals.
* `FeedLog.Lists`: a feed has the subscriptions that a log keeps.
* `FeedLog.verdict`: what becomes of an event that is published next.
* `Feed.Lives`: where a feed stands after a list of requests, and what it answers there.

## Main results

* `Feed.step_turns`, `Feed.subscriptions_step`: what a call does to the life of a feed, and to the
  list of subscriptions.
* `Feed.state_eq_running_iff`: when a feed runs.
* `Feed.subscriberCount_eq`: how many subscriptions it has.
* `Feed.lifecycle`: every run, from a feed just made.
-/

namespace ClaimGrid

variable {ε : Type}

/-- The ways of a state: a feed that was created may start, and every feed may stop. -/
inductive FeedState.Moves : FeedState → FeedState → Prop where
  | stay (s : FeedState) : Moves s s
  | start : Moves .created .running
  | stop (s : FeedState) : Moves s .stopped

/-! ### What the requests tell -/

/-- The signal under which a request starts a feed. -/
def FeedRequest.starts? : FeedRequest ε → Option SignalId
  | start signal => some signal
  | _ => none

/-- Whether a request drops the subscription of a given name. -/
def FeedRequest.drops (id : SubscriptionId) : FeedRequest ε → Bool
  | dropSubscription other => other == id
  | _ => false

/-- Requests after which a feed runs: it was started before it was closed, it was not closed since,
and the signal of that first start is silent. Later starts do not matter. -/
def FeedRequest.KeepRunning (rs : List (FeedRequest ε)) : Prop :=
  ∃ before signal after, rs = before ++ .start signal :: after ∧ (∀ other, .start other ∉ before) ∧
    .close ∉ before ∧ .close ∉ after ∧ .fire signal ∉ before ∧ .fire signal ∉ after

/-- The subscription that a call made, with its signal. -/
def FeedCall.registers? (c : FeedCall ε) : Option (SubscriptionId × SignalId) :=
  match c.request, c.answer with
  | .subscribe signal _, .subscribed id => some (id, signal)
  | _, _ => none

namespace FeedLog

/-- The subscriptions that were made and not dropped since, with their signals, oldest first. -/
def kept : FeedLog ε → List (SubscriptionId × SignalId)
  | [] => []
  | c :: t => c.registers?.toList.filter (fun p => !t.any (·.request.drops p.1)) ++ kept t

/-- What becomes of an event that is published next. Before the start it is taken if fewer events
than `capacity` were taken so far; a feed that runs takes it, and a stopped one does not. -/
def verdict (t : FeedLog ε) (capacity : Nat) (refusal : FeedError) : Except FeedError Unit :=
  match t.state with
  | .created => if t.accepted.length < capacity then .ok () else .error refusal
  | .running => .ok ()
  | .stopped => .error .stopped

/-- A feed has the subscriptions that a log keeps, and those are attached that events reach. -/
structure Lists (t : FeedLog ε) (f : Feed ε) : Prop where
  kept_eq : f.subscriptions.map (fun s => (s.id, s.stop)) = t.kept
  attached_eq : ∀ s ∈ f.subscriptions, s.attached = f.reaches s.stop

theorem kept_append (t u : FeedLog ε) :
    kept (t ++ u) = t.kept.filter (fun p => !u.any (·.request.drops p.1)) ++ kept u := by
  induction t with
  | nil => rfl
  | cons c t ih =>
    rw [List.cons_append, kept, ih, kept, List.filter_append, List.filter_filter, List.append_assoc]
    simp only [List.any_append, Bool.not_or, Bool.and_comm]

theorem kept_singleton (c : FeedCall ε) : kept [c] = c.registers?.toList := by
  rw [kept, kept, List.append_nil]
  exact List.filter_eq_self.2 fun _ _ => rfl

end FeedLog

namespace Feed

variable {f f' f₀ : Feed ε} {c : FeedSettings} {t : FeedLog ε} {rs : List (FeedRequest ε)}
  {signal : SignalId} {r : FeedRequest ε}

/-! ### The requests of a run -/

theorem signal?_log_eq (f : Feed ε) (rs : List (FeedRequest ε)) :
    (f.log rs).signal? = rs.findSome? FeedRequest.starts? := by
  induction rs generalizing f with
  | nil => rfl
  | cons r rs ih =>
    rw [log, FeedLog.signal?, List.findSome?_cons, List.findSome?_cons]
    cases r with
    | start signal => rfl
    | _ => exact ih _

/-- The first start of a run. -/
theorem signal?_log_eq_some_iff (f : Feed ε) :
    (f.log rs).signal? = some signal ↔ ∃ before after,
      rs = before ++ .start signal :: after ∧ ∀ other, .start other ∉ before := by
  rw [signal?_log_eq, List.findSome?_eq_some_iff]
  constructor
  · rintro ⟨before, r, after, hrs, hr, hbefore⟩
    obtain rfl : r = .start signal := by
      cases r with
      | start other => exact congrArg _ (Option.some.inj hr)
      | _ => cases hr
    exact ⟨before, after, hrs, fun other hmem => by cases hbefore _ hmem⟩
  · rintro ⟨before, after, hrs, hbefore⟩
    refine ⟨before, .start signal, after, hrs, rfl, fun r hr => ?_⟩
    cases r with
    | start other => exact absurd hr (hbefore other)
    | _ => rfl

theorem fired_log_iff (f : Feed ε) : (f.log rs).fired signal = true ↔ .fire signal ∈ rs := by
  constructor
  · intro hfired
    by_contra hmem
    rw [fired_log f hmem] at hfired
    cases hfired
  · intro hmem
    obtain ⟨c, hc, hrequest⟩ := f.exists_mem_log hmem
    refine List.any_eq_true.2 ⟨c, hc, ?_⟩
    rw [FeedCall.fires, hrequest]
    exact beq_self_eq_true signal

theorem any_closes_log_iff (f : Feed ε) :
    (f.log rs).any FeedCall.closes = true ↔ .close ∈ rs := by
  constructor
  · intro hcloses
    by_contra hmem
    rw [any_closes_log f hmem] at hcloses
    cases hcloses
  · intro hmem
    obtain ⟨c, hc, hrequest⟩ := f.exists_mem_log hmem
    refine List.any_eq_true.2 ⟨c, hc, ?_⟩
    rw [FeedCall.closes, hrequest]

/-! ### The state -/

/-- What a call does to the state, and to the signal that the feed runs under: it leaves both, or it
is the first start, or it stops the feed. -/
inductive Turns (f : Feed ε) (r : FeedRequest ε) (f' : Feed ε) : Prop where
  | stay (hstart : f.state = .created → r.starts? = none) (hstate : f'.state = f.state)
      (hguard : f'.guard = f.guard)
  | start (signal : SignalId) (hr : r = .start signal) (hcreated : f.state = .created)
      (hstate : f'.state = if f.fired.contains signal then .stopped else .running)
      (hguard : f'.guard = some signal)
  | stop (hstate : f'.state = .stopped) (hguard : f'.guard = f.guard)

theorem step_turns (f : Feed ε) (r : FeedRequest ε) : Turns f r (f.step r).2 := by
  have haccept (refusal : FeedError) (e : ε) :
      (f.accept refusal e).2.state = f.state ∧ (f.accept refusal e).2.guard = f.guard := by
    obtain ⟨ingress, subscriptions, h⟩ := f.exists_snd_accept_eq refusal e
    rw [h]
    exact ⟨rfl, rfl⟩
  cases r with
  | publish e | tryPublish e => exact .stay (fun _ => rfl) (haccept _ e).1 (haccept _ e).2
  | start signal =>
    by_cases hcreated : f.state = .created
    · refine .start signal rfl hcreated ?_ ?_
      · change (f.start signal).state = _
        cases hfired : f.fired.contains signal with
        | false => rw [start_of_created hcreated hfired, if_neg Bool.false_ne_true]
        | true => rw [start_of_fired hcreated hfired, if_pos rfl]
      · change (f.start signal).guard = some signal
        cases hfired : f.fired.contains signal with
        | false => rw [start_of_created hcreated hfired]
        | true => rw [start_of_fired hcreated hfired]
    · have hkept : f.start signal = f := start_of_ne_created hcreated
      exact .stay (fun h => absurd h hcreated) (congrArg state hkept) (congrArg guard hkept)
  | close => exact .stop rfl rfl
  | fire signal =>
    change Turns f _ (f.fire signal)
    rw [fire_eq]
    by_cases hunder : f.runsUnder signal = true
    · exact .stop (if_pos hunder) rfl
    · exact .stay (fun _ => rfl) (if_neg hunder) rfl
  | subscribe signal capacity | dropSubscription id => exact .stay (fun _ => rfl) rfl rfl
  | receive id n =>
    rw [snd_step_receive]
    exact .stay (fun _ => rfl) rfl rfl

/-- A call moves the state one way only. -/
theorem state_step_moves (f : Feed ε) (r : FeedRequest ε) : f.state.Moves (f.step r).2.state := by
  cases f.step_turns r with
  | stay _ hstate _ =>
    rw [hstate]
    exact .stay f.state
  | start signal _ hcreated hstate _ =>
    rw [hstate, hcreated]
    split
    · exact .stop .created
    · exact .start
  | stop hstate _ =>
    rw [hstate]
    exact .stop f.state

/-- A feed that is not started yet was not started before either. -/
theorem created_of_step (h : (f.step r).2.state = .created) :
    f.state = .created ∧ r.starts? = none := by
  cases f.step_turns r with
  | stay hstart hstate _ =>
    have hcreated : f.state = .created := hstate.symm.trans h
    exact ⟨hcreated, hstart hcreated⟩
  | start signal _ _ hstate _ =>
    rw [hstate] at h
    split at h <;> cases h
  | stop hstate _ =>
    rw [hstate] at h
    cases h

/-- A stopped feed stays stopped. -/
theorem state_run_of_stopped (h : f.state = .stopped) (rs : List (FeedRequest ε)) :
    (f.run rs).state = .stopped := by
  induction rs generalizing f with
  | nil => exact h
  | cons r rs ih =>
    refine ih ?_
    cases f.step_turns r with
    | stay _ hstate _ => exact hstate.trans h
    | start _ _ hcreated _ _ =>
      rw [h] at hcreated
      cases hcreated
    | stop hstate _ => exact hstate

/-- The requests alone say whether a feed runs. -/
theorem state_eq_running_iff (hmake : make c = .ok f₀) (rs : List (FeedRequest ε)) :
    (f₀.run rs).state = .running ↔ FeedRequest.KeepRunning rs := by
  rw [(tells_log hmake rs).state_eq, FeedLog.state_eq_running_iff]
  constructor
  · rintro ⟨hopen, signal, hsignal⟩
    obtain ⟨before, after, rfl, hfirst⟩ := (signal?_log_eq_some_iff f₀).1 hsignal
    rw [FeedLog.stopped, hsignal, Option.any_some, Bool.or_eq_false_iff] at hopen
    have hclose := mt (any_closes_log_iff f₀).2 (Bool.eq_false_iff.1 hopen.1)
    have hfire := mt (fired_log_iff f₀).2 (Bool.eq_false_iff.1 hopen.2)
    rw [List.mem_append, List.mem_cons, not_or, not_or] at hclose hfire
    exact ⟨before, signal, after, rfl, hfirst, hclose.1, hclose.2.2, hfire.1, hfire.2.2⟩
  · rintro ⟨before, signal, after, rfl, hfirst, hclose, hclose', hfire, hfire'⟩
    have hsignal : (f₀.log (before ++ .start signal :: after)).signal? = some signal :=
      (signal?_log_eq_some_iff f₀).2 ⟨before, after, rfl, hfirst⟩
    have hopen : FeedRequest.close ∉ before ++ .start signal :: after := by
      rw [List.mem_append, List.mem_cons, not_or, not_or]
      exact ⟨hclose, by rintro ⟨⟩, hclose'⟩
    have hsilent : FeedRequest.fire signal ∉ before ++ .start signal :: after := by
      rw [List.mem_append, List.mem_cons, not_or, not_or]
      exact ⟨hfire, by rintro ⟨⟩, hfire'⟩
    refine ⟨?_, signal, hsignal⟩
    rw [FeedLog.stopped, hsignal, Option.any_some, any_closes_log f₀ hopen, fired_log f₀ hsilent]
    rfl

/-! ### The subscriptions -/

/-- The subscription that a request adds. -/
def registered (f : Feed ε) : FeedRequest ε → List (Subscription ε)
  | .subscribe signal capacity =>
      [{ id := f.nextId, stop := signal, capacity := max capacity 1, buffer := [],
         attached := f.reaches signal }]
  | _ => []

/-- What becomes of a subscription that stays: it keeps its name and its signal, and it is attached
as long as events reach it. -/
structure Retains (f f' : Feed ε) (g : Subscription ε → Subscription ε) : Prop where
  id_eq : ∀ s, (g s).id = s.id
  stop_eq : ∀ s, (g s).stop = s.stop
  attached_eq : ∀ s, s.attached = f.reaches s.stop → (g s).attached = f'.reaches s.stop

theorem retains_id (h : ∀ stop, f'.reaches stop = f.reaches stop) : Retains f f' id where
  id_eq _ := rfl
  stop_eq _ := rfl
  attached_eq s hs := hs.trans (h s.stop).symm

theorem retains_foldl_deliver (h : ∀ stop, f'.reaches stop = f.reaches stop) (es : List ε) :
    Retains f f' (es.foldl .deliver) where
  id_eq s := s.id_foldl_deliver es
  stop_eq s := s.stop_foldl_deliver es
  attached_eq s hs := by rw [s.attached_foldl_deliver es, hs, h]

theorem retains_detach (h : f'.state = .stopped) : Retains f f' .detach where
  id_eq _ := rfl
  stop_eq _ := rfl
  attached_eq s _ := by
    rw [reaches, h]
    rfl

theorem exists_retains_accept (f : Feed ε) (refusal : FeedError) (e : ε) :
    ∃ g, Retains f (f.accept refusal e).2 g ∧
      (f.accept refusal e).2.subscriptions = f.subscriptions.map g := by
  have hreaches (stop : SignalId) : (f.accept refusal e).2.reaches stop = f.reaches stop :=
    f.reaches_accept refusal e
  rcases f.accept_cases refusal e with ⟨-, -, h⟩ | ⟨-, h⟩ | ⟨cause, -, -, h⟩
  · refine ⟨id, retains_id hreaches, ?_⟩
    rw [h, List.map_id]
  · refine ⟨_, retains_foldl_deliver hreaches [e], ?_⟩
    rw [h]
    rfl
  · refine ⟨id, retains_id hreaches, ?_⟩
    rw [h, List.map_id]

theorem exists_retains_start (f : Feed ε) (signal : SignalId) :
    ∃ g, Retains f (f.start signal) g ∧
      (f.start signal).subscriptions = f.subscriptions.map g := by
  by_cases hcreated : f.state = .created
  · cases hfired : f.fired.contains signal with
    | false =>
      rw [start_of_created hcreated hfired]
      refine ⟨_, retains_foldl_deliver (fun stop => ?_) f.ingress, rfl⟩
      rw [reaches, reaches, hcreated]
      rfl
    | true =>
      rw [start_of_fired hcreated hfired]
      exact ⟨_, retains_detach rfl, rfl⟩
  · rw [start_of_ne_created hcreated]
    exact ⟨id, retains_id fun _ => rfl, (List.map_id _).symm⟩

theorem exists_retains_fire (f : Feed ε) (signal : SignalId) :
    ∃ g, Retains f (f.fire signal) g ∧
      (f.fire signal).subscriptions = f.subscriptions.map g := by
  rw [fire_eq]
  refine ⟨fun s => if s.stop = signal ∨ f.runsUnder signal then s.detach else s, ?_, rfl⟩
  refine ⟨fun s => by split <;> rfl, fun s => by split <;> rfl, fun s hs => ?_⟩
  rw [reaches, List.contains_cons]
  by_cases hends : s.stop = signal ∨ f.runsUnder signal = true
  -- its own signal fires, or the one that the feed runs under: events no longer reach it
  · rw [if_pos hends]
    rcases hends with hstop | hunder
    · simp [Subscription.detach, hstop]
    · simp [Subscription.detach, hunder]
  · rw [if_neg hends]
    obtain ⟨hstop, hunder⟩ := not_or.1 hends
    rw [if_neg hunder, beq_eq_false_iff_ne.2 hstop, Bool.false_or]
    exact hs

/-- A call drops one subscription, or adds one, or neither. All others keep name and signal, and
are attached as long as events reach them. -/
theorem subscriptions_step (f : Feed ε) (r : FeedRequest ε) :
    ∃ g, Retains f (f.step r).2 g ∧ (f.step r).2.subscriptions =
      (f.subscriptions.filter fun s => !r.drops s.id).map g ++ f.registered r := by
  -- all calls but the two that add and drop treat every subscription alike
  have hall {g : Subscription ε → Subscription ε} (hdrops : ∀ id, r.drops id = false)
      (hregistered : f.registered r = [])
      (h : (f.step r).2.subscriptions = f.subscriptions.map g) :
      (f.step r).2.subscriptions =
        (f.subscriptions.filter fun s => !r.drops s.id).map g ++ f.registered r := by
    rw [h, hregistered, List.append_nil, List.filter_eq_self.2]
    intro s _
    rw [hdrops]
    rfl
  cases r with
  | publish e | tryPublish e =>
    obtain ⟨g, hg, h⟩ := f.exists_retains_accept _ e
    exact ⟨g, hg, hall (fun _ => rfl) rfl h⟩
  | start signal =>
    obtain ⟨g, hg, h⟩ := f.exists_retains_start signal
    exact ⟨g, hg, hall (fun _ => rfl) rfl h⟩
  | close => exact ⟨_, retains_detach rfl, hall (fun _ => rfl) rfl rfl⟩
  | fire signal =>
    obtain ⟨g, hg, h⟩ := f.exists_retains_fire signal
    exact ⟨g, hg, hall (fun _ => rfl) rfl h⟩
  | subscribe signal capacity =>
    refine ⟨id, retains_id fun _ => rfl, ?_⟩
    have hkept : f.subscriptions.filter (fun s => !FeedRequest.drops s.id
        (.subscribe signal capacity : FeedRequest ε)) = f.subscriptions :=
      List.filter_eq_self.2 fun _ _ => rfl
    rw [List.map_id, hkept]
    rfl
  | dropSubscription other =>
    refine ⟨id, retains_id fun _ => rfl, ?_⟩
    rw [List.map_id]
    change f.subscriptions.filter _ = f.subscriptions.filter _ ++ []
    rw [List.append_nil]
    refine List.filter_congr fun s _ => ?_
    rw [FeedRequest.drops, Bool.beq_comm, beq_eq_decide, decide_not]
  | receive id n =>
    have hretains : Retains f (f.take id n)
        fun s => if s.id = id then { s with buffer := s.buffer.drop n } else s := by
      refine ⟨fun s => by split <;> rfl, fun s => by split <;> rfl, fun s hs => ?_⟩
      refine Eq.trans ?_ hs
      split <;> rfl
    rw [← snd_step_receive] at hretains
    exact ⟨_, hretains, hall (fun _ => rfl) rfl (by rw [snd_step_receive]; rfl)⟩

/-- A subscription that is not there appears only where it is made. -/
theorem subscription?_step_of_none {id : SubscriptionId} (h : f.subscription? id = none)
    (hnew : ∀ signal capacity, r = .subscribe signal capacity → f.nextId ≠ id) :
    (f.step r).2.subscription? id = none := by
  obtain ⟨g, hg, hsubscriptions⟩ := f.subscriptions_step r
  refine List.find?_eq_none.2 fun s' hs' => ?_
  rw [hsubscriptions, List.mem_append, List.mem_map] at hs'
  rcases hs' with ⟨s, hs, rfl⟩ | hregistered
  · rw [hg.id_eq]
    exact List.find?_eq_none.1 h s (List.mem_filter.1 hs).1
  · cases r with
    | subscribe signal capacity =>
      obtain rfl := List.mem_singleton.1 hregistered
      exact mt of_decide_eq_true (hnew signal capacity rfl)
    | _ => exact absurd hregistered List.not_mem_nil

end Feed

namespace FeedLog

variable {t : FeedLog ε} {f : Feed ε}

/-- A feed has the subscriptions that its log keeps, whatever is called next. -/
theorem Lists.step (h : t.Lists f) (r : FeedRequest ε) :
    FeedLog.Lists (t ++ [⟨r, (f.step r).1⟩]) (f.step r).2 := by
  obtain ⟨g, hg, hsubscriptions⟩ := f.subscriptions_step r
  have hregistered : (f.registered r).map (fun s => (s.id, s.stop)) =
      (FeedCall.registers? ⟨r, (f.step r).1⟩).toList := by
    cases r <;> rfl
  have hpairs : (fun s : Subscription ε => (s.id, s.stop)) ∘ g = fun s => (s.id, s.stop) := by
    funext s
    exact Prod.ext (hg.id_eq s) (hg.stop_eq s)
  constructor
  · rw [hsubscriptions, kept_append, kept_singleton, List.map_append, List.map_map, hpairs,
      hregistered, ← h.kept_eq, List.filter_map]
    simp only [List.any_cons, List.any_nil, Bool.or_false, Function.comp_def]
  · intro s' hs'
    rw [hsubscriptions, List.mem_append, List.mem_map] at hs'
    rcases hs' with ⟨s, hs, rfl⟩ | hnew
    · rw [hg.stop_eq]
      exact hg.attached_eq s (h.attached_eq s (List.mem_filter.1 hs).1)
    · cases r with
      | subscribe signal capacity =>
        obtain rfl := List.mem_singleton.1 hnew
        rfl
      | _ => exact absurd hnew List.not_mem_nil

theorem Lists.run (h : t.Lists f) (rs : List (FeedRequest ε)) :
    FeedLog.Lists (t ++ f.log rs) (f.run rs) := by
  induction rs generalizing t f with
  | nil =>
    rw [Feed.log, List.append_nil]
    exact h
  | cons r rs ih =>
    rw [Feed.append_log_cons]
    exact ih (h.step r)

end FeedLog

namespace Feed

variable {f f₀ : Feed ε} {c : FeedSettings} {t : FeedLog ε}

/-- After every run from a feed just made, the feed has the subscriptions that its log keeps. -/
theorem lists_log (hmake : make c = .ok f₀) (rs : List (FeedRequest ε)) :
    (f₀.log rs).Lists (f₀.run rs) := by
  have hempty : FeedLog.Lists [] f₀ := by
    obtain rfl := make_eq_ok hmake
    exact ⟨rfl, fun s hs => absurd hs List.not_mem_nil⟩
  exact hempty.run rs

/-- The subscriptions that were made and not dropped since count while their signals are silent,
until the feed is stopped. -/
theorem subscriberCount_eq (ht : t.Tells f) (hl : t.Lists f) :
    f.subscriberCount =
      if f.state = .stopped then 0 else t.kept.countP fun p => !t.fired p.2 := by
  have hcount : f.subscriberCount = t.kept.countP fun p => f.reaches p.2 := by
    rw [subscriberCount, ← hl.kept_eq, List.countP_map]
    refine List.countP_congr fun s hs => ?_
    rw [hl.attached_eq s hs]
    rfl
  rw [hcount]
  split
  · rename_i hstopped
    refine List.countP_eq_zero.2 fun p _ => ?_
    rw [reaches, hstopped]
    exact Bool.false_ne_true
  · rename_i hopen
    refine List.countP_congr fun p _ => ?_
    rw [reaches, decide_eq_true hopen, Bool.true_and, ht.fired_eq]

/-! ### Publishing -/

theorem accept_eq_verdict (ht : t.Tells f) (refusal : FeedError) (e : ε) :
    (f.accept refusal e).1 = t.verdict f.settings.ingressCapacity.toNat refusal := by
  rw [FeedLog.verdict, ← ht.state_eq]
  cases hstate : f.state with
  | created =>
    dsimp only
    rw [← ht.ingress_eq hstate]
    split
    · rename_i hroom
      rw [accept_of_room hstate hroom]
    · rename_i hfull
      rw [accept_of_full hstate hfull]
  | running => rw [accept_of_running hstate]
  | stopped => rw [accept_of_stopped hstate]

/-- A refused event leaves the feed as it was. -/
theorem accept_of_error {refusal cause : FeedError} {e : ε}
    (h : (f.accept refusal e).1 = .error cause) : (f.accept refusal e).2 = f := by
  rcases f.accept_cases refusal e with ⟨-, -, haccept⟩ | ⟨-, haccept⟩ | ⟨cause', -, -, haccept⟩ <;>
  rw [haccept] at h ⊢
  · cases h
  · cases h

/-! ### Every run -/

/-- Where a feed with the given settings stands after a list of requests, and what it answers there.
The log holds the requests with their answers. -/
structure Lives (settings : FeedSettings) (rs : List (FeedRequest ε)) (t : FeedLog ε)
    (f : Feed ε) : Prop where
  /-- The feed stands where its log leads. -/
  state_eq : f.state = t.state
  /-- The next call moves the state one way only. -/
  moves : ∀ r, f.state.Moves (f.step r).2.state
  /-- Nothing brings a stopped feed back. -/
  stays_stopped : f.state = .stopped → ∀ more, (f.run more).state = .stopped
  /-- The requests alone say whether the feed runs. -/
  running_iff : f.state = .running ↔ FeedRequest.KeepRunning rs
  /-- Until the feed is stopped, the subscriptions count that were not dropped and whose signals are
  silent. -/
  subscriberCount_eq : f.subscriberCount =
    if f.state = .stopped then 0 else t.kept.countP fun p => !t.fired p.2
  /-- Before the start, what was accepted is queued. -/
  ingress_eq : f.state = .created → f.ingress = t.accepted
  /-- An event that finds no room is refused after the longest wait. -/
  publish_eq : ∀ e, (f.step (.publish e)).1 = .published
    (t.verdict settings.ingressCapacity.toNat (.timeout settings.sendTimeout))
  /-- Or it is refused at once. -/
  tryPublish_eq : ∀ e, (f.step (.tryPublish e)).1 = .published
    (t.verdict settings.ingressCapacity.toNat .full)
  /-- A refused event leaves the feed, and its queue, as it was. -/
  step_of_refused : ∀ r cause, (f.step r).1 = .published (.error cause) → (f.step r).2 = f
  /-- Whoever subscribes to a stopped feed finds nothing, and the end. -/
  born_disconnected : f.state = .stopped → ∀ stop capacity, ∃ id,
    (f.step (.subscribe stop capacity)).1 = .subscribed id ∧ ∀ n, 0 < n →
      ((f.step (.subscribe stop capacity)).2.step (.receive id n)).1 =
        .received (some ([], .disconnected))

theorem step_of_refused {r : FeedRequest ε} {cause : FeedError}
    (h : (f.step r).1 = .published (.error cause)) : (f.step r).2 = f := by
  cases r with
  | publish e | tryPublish e => exact accept_of_error (FeedAnswer.published.inj h)
  | _ => cases h

/-- A subscription to a stopped feed is empty and stays so. -/
theorem receive_of_born_stopped (hf : f.Numbered) (h : f.state = .stopped) (stop : SignalId)
    (capacity : Nat) {n : Nat} (hn : 0 < n) :
    ((f.step (.subscribe stop capacity)).2.step (.receive f.nextId n)).1 =
      .received (some ([], .disconnected)) := by
  have hborn := subscription?_subscribe hf stop capacity
  change FeedAnswer.received ((f.step (.subscribe stop capacity)).2.receive f.nextId n).1 = _
  rw [receive_eq, hborn, reaches, h, Option.map_some, List.take_nil, List.length_nil,
    if_neg (Nat.not_le.2 hn)]
  rfl

theorem settings_run (f : Feed ε) (rs : List (FeedRequest ε)) :
    (f.run rs).settings = f.settings := by
  induction rs generalizing f with
  | nil => rfl
  | cons r rs ih => exact (ih _).trans (f.settings_step r)

end Feed

end ClaimGrid
