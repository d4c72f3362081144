import ClaimGrid.Proofs.Feed.Outcome

/-!
# What the calls to a feed tell of it

Whoever keeps the calls that were made to a feed, with their answers, knows where the feed stands:
which signals have fired, whether it was started and under which of them, whether it is stopped, and
which events it has accepted.

## Main definitions

* `FeedCall`, `FeedLog`: a call with its answer, and the calls that were made to a feed.
* `FeedLog.state`: where the calls have brought a feed.
* `FeedLog.accepted`: the events that a feed has accepted.
* `Feed.log`: the calls of a run.
* `FeedLog.Tells`: a feed stands where the calls of a log lead.

## Main results

* `FeedLog.Tells.step`: one more call.
* `Feed.tells_log`: every run, from a feed just made.
-/

namespace ClaimGrid

/-- A call to a feed with its answer. -/
structure FeedCall (ε : Type) where
  /-- The call. -/
  request : FeedRequest ε
  /-- What it answered. -/
  answer : FeedAnswer ε

/-- The calls that were made to a feed, oldest first. -/
abbrev FeedLog (ε : Type) := List (FeedCall ε)

namespace FeedCall

variable {ε : Type}

/-- Whether the call closes the feed. -/
def closes (c : FeedCall ε) : Bool :=
  match c.request with
  | .close => true
  | _ => false

/-- Whether the call fires a signal. -/
def fires (signal : SignalId) (c : FeedCall ε) : Bool :=
  match c.request with
  | .fire other => other == signal
  | _ => false

/-- The signal under which the call starts the feed. -/
def starts? (c : FeedCall ε) : Option SignalId :=
  match c.request with
  | .start signal => some signal
  | _ => none

/-- The event that the call published, if the answer accepts it. -/
def accepted? (c : FeedCall ε) : Option ε :=
  match c.request, c.answer with
  | .publish e, .published (.ok ()) | .tryPublish e, .published (.ok ()) => some e
  | _, _ => none

end FeedCall

namespace FeedLog

variable {ε : Type} (t : FeedLog ε)

/-- The signal of the first start. -/
def signal? : Option SignalId := t.findSome? FeedCall.starts?

/-- Whether a signal has fired. -/
def fired (signal : SignalId) : Bool := t.any (FeedCall.fires signal)

/-- Whether the feed was closed, or the signal that it was started under has fired. -/
def stopped : Bool := t.any FeedCall.closes || t.signal?.any t.fired

/-- Where the calls have brought the feed. -/
def state : FeedState :=
  if t.stopped then .stopped else if t.signal?.isSome then .running else .created

/-- The events that the feed has accepted, in the order of the calls. -/
def accepted : List ε := t.filterMap FeedCall.accepted?

/-- A feed stands where the calls of a log lead. -/
structure Tells (f : Feed ε) : Prop where
  state_eq : f.state = t.state
  fired_eq : ∀ signal, f.fired.contains signal = t.fired signal
  guard_eq : f.state = .running → f.guard = t.signal?
  /-- What was accepted before the start waits for it. -/
  ingress_eq : f.state = .created → f.ingress = t.accepted

end FeedLog

namespace Feed

variable {ε : Type} {f : Feed ε} {rs : List (FeedRequest ε)} {c : FeedCall ε}

/-- The calls of a run, with their answers. -/
def log (f : Feed ε) : List (FeedRequest ε) → FeedLog ε
  | [] => []
  | r :: rs => ⟨r, (f.step r).1⟩ :: log (f.step r).2 rs

theorem run_append (f : Feed ε) (rs rs' : List (FeedRequest ε)) :
    f.run (rs ++ rs') = (f.run rs).run rs' := List.foldl_append

theorem run_concat (f : Feed ε) (rs : List (FeedRequest ε)) (r : FeedRequest ε) :
    f.run (rs ++ [r]) = ((f.run rs).step r).2 := run_append f rs [r]

theorem log_append (f : Feed ε) (rs rs' : List (FeedRequest ε)) :
    f.log (rs ++ rs') = f.log rs ++ (f.run rs).log rs' := by
  induction rs generalizing f with
  | nil => rfl
  | cons r rs ih =>
    change _ :: (f.step r).2.log (rs ++ rs') = _
    rw [ih]
    rfl

theorem map_request_log (f : Feed ε) (rs : List (FeedRequest ε)) :
    (f.log rs).map FeedCall.request = rs := by
  induction rs generalizing f with
  | nil => rfl
  | cons r rs ih => exact congrArg (r :: ·) (ih _)

theorem request_mem (h : c ∈ f.log rs) : c.request ∈ rs := by
  rw [← f.map_request_log rs]
  exact List.mem_map_of_mem h

theorem exists_mem_log (f : Feed ε) {r : FeedRequest ε} (hr : r ∈ rs) :
    ∃ c ∈ f.log rs, c.request = r := by
  rw [← f.map_request_log rs] at hr
  exact List.mem_map.1 hr

end Feed

namespace FeedLog

variable {ε : Type} {t : FeedLog ε} {c : FeedCall ε} {f : Feed ε}

/-! ### One more call -/

theorem signal?_append (t t' : FeedLog ε) :
    FeedLog.signal? (t ++ t') = t.signal?.or (FeedLog.signal? t') :=
  List.findSome?_append

theorem fired_append (t t' : FeedLog ε) (signal : SignalId) :
    FeedLog.fired (t ++ t') signal = (t.fired signal || FeedLog.fired t' signal) :=
  List.any_append

theorem accepted_append (t t' : FeedLog ε) :
    FeedLog.accepted (t ++ t') = t.accepted ++ FeedLog.accepted t' :=
  List.filterMap_append

theorem signal?_singleton (c : FeedCall ε) : FeedLog.signal? [c] = c.starts? := by
  rw [signal?, List.findSome?_cons]
  cases c.starts? <;> rfl

theorem fired_singleton (c : FeedCall ε) (signal : SignalId) :
    FeedLog.fired [c] signal = c.fires signal := Bool.or_false _

theorem accepted_singleton (c : FeedCall ε) : FeedLog.accepted [c] = c.accepted?.toList := by
  rw [accepted, List.filterMap_cons]
  cases c.accepted? <;> rfl

/-- What stops a feed: it was closed, or the signal of the first start has fired. -/
theorem stopped_iff (t : FeedLog ε) :
    t.stopped = true ↔ (∃ c ∈ t, c.closes = true) ∨ ∃ signal, t.signal? = some signal ∧
      t.fired signal = true := by
  simp only [stopped, Bool.or_eq_true, List.any_eq_true, Option.any_eq_true]

/-- A stopped feed stays stopped. -/
theorem stopped_append (h : t.stopped = true) (t' : FeedLog ε) :
    FeedLog.stopped (t ++ t') = true := by
  rw [stopped_iff] at h ⊢
  rcases h with ⟨c, hc, hcloses⟩ | ⟨signal, hsignal, hfired⟩
  · exact .inl ⟨c, List.mem_append_left _ hc, hcloses⟩
  · refine .inr ⟨signal, ?_, ?_⟩
    · rw [signal?_append, hsignal, Option.some_or]
    · rw [fired_append, hfired, Bool.true_or]

/-! ### Reading off the state -/

theorem state_eq_stopped_iff : t.state = .stopped ↔ t.stopped = true := by
  cases hstopped : t.stopped <;> cases hsignal : t.signal? <;> simp [state, hstopped, hsignal]

theorem state_eq_running_iff :
    t.state = .running ↔ t.stopped = false ∧ ∃ signal, t.signal? = some signal := by
  cases hstopped : t.stopped <;> cases hsignal : t.signal? <;> simp [state, hstopped, hsignal]

theorem state_eq_created_iff :
    t.state = .created ↔ t.stopped = false ∧ t.signal? = none := by
  cases hstopped : t.stopped <;> cases hsignal : t.signal? <;> simp [state, hstopped, hsignal]

/-! ### A feed stands where its log leads -/

/-- A call that neither starts the feed, nor closes it, nor fires a signal leaves it where it is. -/
theorem state_concat_of_idle (hstarts : c.starts? = none) (hcloses : c.closes = false)
    (hfires : ∀ signal, c.fires signal = false) : FeedLog.state (t ++ [c]) = t.state := by
  have hsignal : FeedLog.signal? (t ++ [c]) = t.signal? := by
    rw [signal?_append, signal?_singleton, hstarts, Option.or_none]
  have hfired : FeedLog.fired (t ++ [c]) = t.fired := by
    funext signal
    rw [fired_append, fired_singleton, hfires, Bool.or_false]
  have hstopped : FeedLog.stopped (t ++ [c]) = t.stopped := by
    rw [stopped, hsignal, hfired, List.any_append, List.any_cons, hcloses]
    simp [stopped]
  rw [state, hstopped, hsignal, state]

namespace Tells

/-- An idle call may add to the queue what it publishes. -/
theorem idle {f' : Feed ε} (h : t.Tells f) (hstarts : c.starts? = none)
    (hcloses : c.closes = false) (hfires : ∀ signal, c.fires signal = false)
    (hstate : f'.state = f.state) (hguard : f'.guard = f.guard) (hfired : f'.fired = f.fired)
    (hingress : f.state = .created → f'.ingress = f.ingress ++ c.accepted?.toList) :
    FeedLog.Tells (t ++ [c]) f' where
  state_eq := by rw [state_concat_of_idle hstarts hcloses hfires, hstate, h.state_eq]
  fired_eq signal := by
    rw [hfired, h.fired_eq, fired_append, fired_singleton, hfires, Bool.or_false]
  guard_eq hrunning := by
    rw [hguard, h.guard_eq (hstate ▸ hrunning), signal?_append, signal?_singleton, hstarts,
      Option.or_none]
  ingress_eq hcreated := by
    have hbefore : f.state = .created := hstate ▸ hcreated
    rw [hingress hbefore, h.ingress_eq hbefore, accepted_append, accepted_singleton]

/-- Publishing queues the event exactly if it is accepted before the start. -/
theorem accept (h : t.Tells f) (hstarts : c.starts? = none) (hcloses : c.closes = false)
    (hfires : ∀ signal, c.fires signal = false) {refusal : FeedError} {e : ε}
    (hok : (f.accept refusal e).1 = .ok () → c.accepted? = some e)
    (herror : ∀ cause, (f.accept refusal e).1 = .error cause → c.accepted? = none) :
    FeedLog.Tells (t ++ [c]) (f.accept refusal e).2 := by
  rcases f.accept_cases refusal e with ⟨-, -, haccept⟩ | ⟨hrunning, haccept⟩ |
    ⟨cause, -, -, haccept⟩
  · rw [haccept] at hok ⊢
    refine h.idle hstarts hcloses hfires rfl rfl rfl fun _ => ?_
    rw [hok rfl]
    rfl
  · rw [haccept]
    refine h.idle hstarts hcloses hfires rfl rfl rfl fun hcreated => ?_
    rw [hrunning] at hcreated
    cases hcreated
  · rw [haccept] at herror ⊢
    refine h.idle hstarts hcloses hfires rfl rfl rfl fun _ => ?_
    rw [herror cause rfl]
    exact (List.append_nil _).symm

theorem start (h : t.Tells f) (signal : SignalId) (answer : FeedAnswer ε) :
    FeedLog.Tells (t ++ [⟨.start signal, answer⟩]) (f.start signal) := by
  have hfired (other : SignalId) :
      FeedLog.fired (t ++ [⟨.start signal, answer⟩]) other = t.fired other := by
    rw [fired_append, fired_singleton]
    exact Bool.or_false _
  have hsignal :
      FeedLog.signal? (t ++ [⟨.start signal, answer⟩]) = t.signal?.or (some signal) := by
    rw [signal?_append, signal?_singleton]
    rfl
  by_cases hcreated : f.state = .created
  · obtain ⟨hrunning, hnone⟩ := state_eq_created_iff.1 (h.state_eq ▸ hcreated)
    rw [hnone, Option.none_or] at hsignal
    have hopen : t.any FeedCall.closes = false := by
      rw [stopped, Bool.or_eq_false_iff] at hrunning
      exact hrunning.1
    have hstopped :
        FeedLog.stopped (t ++ [⟨.start signal, answer⟩]) = t.fired signal := by
      rw [stopped, hsignal, List.any_append, hopen, Option.any_some, hfired]
      rfl
    cases hsignaled : f.fired.contains signal with
    | false =>
      rw [Feed.start_of_created hcreated hsignaled]
      rw [h.fired_eq] at hsignaled
      refine ⟨?_, fun other => ?_, fun _ => hsignal.symm, nofun⟩
      · rw [state, hstopped, hsignaled, hsignal]
        rfl
      · rw [hfired]
        exact h.fired_eq other
    | true =>
      rw [Feed.start_of_fired hcreated hsignaled]
      rw [h.fired_eq] at hsignaled
      refine ⟨?_, fun other => ?_, nofun, nofun⟩
      · rw [state, hstopped, hsignaled]
        rfl
      · rw [hfired]
        exact h.fired_eq other
  · rw [Feed.start_of_ne_created hcreated]
    have hstate : FeedLog.state (t ++ [⟨.start signal, answer⟩]) = t.state := by
      cases hbefore : t.state with
      | created => exact absurd (h.state_eq.trans hbefore) hcreated
      | stopped =>
        rw [state_eq_stopped_iff] at hbefore ⊢
        exact stopped_append hbefore _
      | running =>
        obtain ⟨hrunning, first, hfirst⟩ := state_eq_running_iff.1 hbefore
        rw [hfirst, Option.some_or] at hsignal
        refine state_eq_running_iff.2 ⟨?_, first, hsignal⟩
        rw [stopped, hfirst, Option.any_some, Bool.or_eq_false_iff] at hrunning
        rw [stopped, hsignal, List.any_append, hrunning.1, Option.any_some, hfired, hrunning.2]
        rfl
    refine ⟨h.state_eq.trans hstate.symm, fun other => ?_, fun hrunning => ?_,
      fun h' => absurd h' hcreated⟩
    · rw [hfired, h.fired_eq]
    · obtain ⟨-, first, hfirst⟩ := state_eq_running_iff.1 (h.state_eq ▸ hrunning)
      rw [h.guard_eq hrunning, hsignal, hfirst, Option.some_or]

theorem close (h : t.Tells f) (answer : FeedAnswer ε) :
    FeedLog.Tells (t ++ [⟨.close, answer⟩]) f.close where
  state_eq := by
    refine Eq.symm (state_eq_stopped_iff.2 ((stopped_iff _).2 (.inl ?_)))
    exact ⟨_, List.mem_concat_self, rfl⟩
  fired_eq other := by
    rw [fired_append, fired_singleton]
    exact (h.fired_eq other).trans (Bool.or_false _).symm
  guard_eq := nofun
  ingress_eq := nofun

theorem fire (h : t.Tells f) (signal : SignalId) (answer : FeedAnswer ε) :
    FeedLog.Tells (t ++ [⟨.fire signal, answer⟩]) (f.fire signal) := by
  have hfired (other : SignalId) : FeedLog.fired (t ++ [⟨.fire signal, answer⟩]) other =
      (t.fired other || signal == other) := by
    rw [fired_append, fired_singleton]
    rfl
  have hsignal : FeedLog.signal? (t ++ [⟨.fire signal, answer⟩]) = t.signal? := by
    rw [signal?_append, signal?_singleton]
    exact Option.or_none
  have hclosed : List.any (t ++ [⟨.fire signal, answer⟩]) FeedCall.closes =
      t.any FeedCall.closes := by
    rw [List.any_append]
    exact Bool.or_false _
  have hstate : (f.fire signal).state = FeedLog.state (t ++ [⟨.fire signal, answer⟩]) := by
    rw [Feed.fire_eq]
    dsimp only
    cases hbefore : t.state with
    | stopped =>
      have hf : f.state = .stopped := h.state_eq.trans hbefore
      rw [Feed.runsUnder, Feed.isRunning, hf]
      refine Eq.symm (state_eq_stopped_iff.2 (stopped_append ?_ _))
      exact state_eq_stopped_iff.1 hbefore
    | created =>
      have hf : f.state = .created := h.state_eq.trans hbefore
      rw [Feed.runsUnder, Feed.isRunning, hf]
      obtain ⟨hopen, hnone⟩ := state_eq_created_iff.1 hbefore
      refine Eq.symm (state_eq_created_iff.2 ⟨?_, hsignal.trans hnone⟩)
      rw [stopped, hnone] at hopen
      rw [stopped, hsignal, hnone, hclosed]
      exact hopen
    | running =>
      have hf : f.state = .running := h.state_eq.trans hbefore
      obtain ⟨hopen, first, hfirst⟩ := state_eq_running_iff.1 hbefore
      rw [stopped, hfirst, Option.any_some, Bool.or_eq_false_iff] at hopen
      have hstopped : FeedLog.stopped (t ++ [⟨.fire signal, answer⟩]) = (signal == first) := by
        rw [stopped, hsignal, hfirst, hclosed, hopen.1, Option.any_some, hfired, hopen.2]
        rfl
      rw [Feed.runsUnder, Feed.isRunning, hf, h.guard_eq hf, hfirst, state, hstopped, hsignal,
        hfirst]
      by_cases hsame : signal = first
      · simp [hsame]
      · simp [hsame, Ne.symm hsame]
  refine ⟨hstate, fun other => ?_, fun hrunning => ?_, fun hcreated => ?_⟩
  · rw [Feed.fire_eq, hfired, ← h.fired_eq]
    by_cases hsame : other = signal
    · simp [hsame]
    · simp [hsame, Ne.symm hsame]
  · rw [Feed.fire_eq] at hrunning ⊢
    have hf : f.state = .running := by
      dsimp only at hrunning
      split at hrunning
      · cases hrunning
      · exact hrunning
    rw [hsignal]
    exact h.guard_eq hf
  · rw [Feed.fire_eq] at hcreated ⊢
    have hf : f.state = .created := by
      dsimp only at hcreated
      split at hcreated
      · cases hcreated
      · exact hcreated
    rw [accepted_append, accepted_singleton]
    exact (h.ingress_eq hf).trans (List.append_nil _).symm

/-- A feed stands where its log leads, whatever is called next. -/
theorem step (h : t.Tells f) (r : FeedRequest ε) :
    FeedLog.Tells (t ++ [⟨r, (f.step r).1⟩]) (f.step r).2 := by
  cases r with
  | publish e =>
    refine h.accept rfl rfl (fun _ => rfl) (fun hok => ?_) fun cause herror => ?_
    · simp only [FeedCall.accepted?, Feed.step, Feed.publish, hok]
    · simp only [FeedCall.accepted?, Feed.step, Feed.publish, herror]
  | tryPublish e =>
    refine h.accept rfl rfl (fun _ => rfl) (fun hok => ?_) fun cause herror => ?_
    · simp only [FeedCall.accepted?, Feed.step, Feed.tryPublish, hok]
    · simp only [FeedCall.accepted?, Feed.step, Feed.tryPublish, herror]
  | start signal => exact h.start signal _
  | close => exact h.close _
  | fire signal => exact h.fire signal _
  | subscribe signal capacity =>
    exact h.idle rfl rfl (fun _ => rfl) rfl rfl rfl fun _ => (List.append_nil _).symm
  | dropSubscription id =>
    exact h.idle rfl rfl (fun _ => rfl) rfl rfl rfl fun _ => (List.append_nil _).symm
  | receive id n =>
    rw [Feed.snd_step_receive]
    exact h.idle rfl rfl (fun _ => rfl) rfl rfl rfl fun _ => (List.append_nil _).symm

theorem run (h : t.Tells f) (rs : List (FeedRequest ε)) :
    FeedLog.Tells (t ++ f.log rs) (f.run rs) := by
  induction rs generalizing t f with
  | nil =>
    rw [Feed.log, List.append_nil]
    exact h
  | cons r rs ih =>
    have hrest := ih (h.step r)
    rw [List.append_assoc, List.singleton_append] at hrest
    exact hrest

end Tells

end FeedLog

namespace Feed

variable {ε : Type} {c : FeedSettings} {f₀ : Feed ε}

theorem tells_make (hmake : make c = .ok f₀) : FeedLog.Tells [] f₀ := by
  obtain rfl := make_eq_ok hmake
  exact ⟨rfl, fun _ => rfl, nofun, fun _ => rfl⟩

/-- After every run from a feed just made, the feed stands where its calls lead. -/
theorem tells_log (hmake : make c = .ok f₀) (rs : List (FeedRequest ε)) :
    (f₀.log rs).Tells (f₀.run rs) := (tells_make hmake).run rs

end Feed

end ClaimGrid
