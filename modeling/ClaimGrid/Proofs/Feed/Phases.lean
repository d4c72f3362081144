import ClaimGrid.Proofs.Feed.Outputs

/-!
# What is sent before, at and after the start

A feed that is started once and closed at most once has three phases. Before the start it sends
nothing and accepts what fits the queue. The start sends what was accepted. From then on everything
that is published is accepted and sent, until the feed is closed or the signal of the start fires.

## Main definitions

* `FeedRequest.published?`: the event that a request publishes.

## Main results

* `Feed.accepted_log_of_created`: before the start, the queue takes the first events.
* `Feed.accepted_log_of_running`: while the feed runs, it accepts every event.
* `Feed.heard_log_of_start`: what reaches a subscription that was made before the start.
-/

namespace ClaimGrid

variable {ε : Type}

/-- The event that a request publishes. -/
def FeedRequest.published? : FeedRequest ε → Option ε
  | publish e | tryPublish e => some e
  | _ => none

/-! ### Phases of a log -/

namespace FeedLog

variable {t u : FeedLog ε} {c : FeedCall ε} {stop signal : SignalId}

/-- Only what is published is accepted. -/
theorem accepted_sublist (t : FeedLog ε) :
    t.accepted.Sublist ((t.map FeedCall.request).filterMap FeedRequest.published?) := by
  induction t with
  | nil => exact List.Sublist.refl _
  | cons c t ih =>
    obtain ⟨request, answer⟩ := c
    cases request with
    | publish e | tryPublish e =>
      cases answer with
      | published outcome =>
        cases outcome with
        | ok u => exact ih.cons_cons e
        | error cause => exact ih.cons e
      | _ => exact ih.cons e
    | _ => exact ih

/-- Nothing is sent before the start. -/
theorem heard_of_signal?_eq_none (h : FeedLog.signal? (t ++ u) = none) : heard stop t u = [] := by
  induction u generalizing t with
  | nil => rfl
  | cons c u ih =>
    have hrest := h
    rw [signal?_append, Option.or_eq_none_iff] at h
    have hstarts : c.starts? = none := List.findSome?_eq_none_iff.1 h.2 c List.mem_cons_self
    have hidle : t.state ≠ .running := fun hrunning => by
      obtain ⟨-, first, hfirst⟩ := state_eq_running_iff.1 hrunning
      rw [h.1] at hfirst
      cases hfirst
    have hnothing : t.dispatched c = [] := by
      rw [dispatched, hstarts]
      exact if_neg hidle
    rw [heard, hnothing, ite_self, List.nil_append]
    exact ih (by rwa [List.append_assoc, List.singleton_append])

/-- The start sends what has been accepted. -/
theorem heard_start (hstarts : c.starts? = some signal) (hcreated : t.state = .created)
    (hsignal : t.fired signal = false) (hstop : t.fired stop = false) :
    heard stop t [c] = t.accepted := by
  have hreaches : t.reaches stop = true := by
    rw [reaches, hcreated, hstop]
    rfl
  have hsent : t.dispatched c = t.accepted := by
    rw [dispatched, hstarts]
    exact if_pos ⟨hcreated, hsignal⟩
  rw [heard, if_pos hreaches, hsent, heard, List.append_nil]

/-- A feed that runs at the end has run since its start. -/
theorem state_of_append_running (hsignal : t.signal? = some signal)
    (hrunning : FeedLog.state (t ++ u) = .running) : t.state = .running := by
  refine state_eq_running_iff.2 ⟨Bool.eq_false_iff.2 fun hstopped => ?_, signal, hsignal⟩
  rw [state_eq_stopped_iff.2 (stopped_append hstopped u)] at hrunning
  cases hrunning

/-- While the feed runs, everything that is accepted is sent. -/
theorem heard_of_running (hsignal : t.signal? = some signal)
    (hrunning : FeedLog.state (t ++ u) = .running) (hstop : FeedLog.fired (t ++ u) stop = false) :
    heard stop t u = FeedLog.accepted u := by
  induction u generalizing t with
  | nil => rfl
  | cons c u ih =>
    have hassoc : t ++ c :: u = (t ++ [c]) ++ u := by rw [List.append_assoc, List.singleton_append]
    have hsignal' : FeedLog.signal? (t ++ [c]) = some signal := by
      rw [signal?_append, hsignal, Option.some_or]
    have hrest := ih hsignal' (hassoc ▸ hrunning) (hassoc ▸ hstop)
    have hnow := state_of_append_running hsignal hrunning
    have hreaches : t.reaches stop = true := by
      rw [fired_append, Bool.or_eq_false_iff] at hstop
      rw [reaches, hnow, hstop.1]
      rfl
    have hsent : t.dispatched c = c.accepted?.toList := by
      rw [dispatched, hnow]
      cases hstarts : c.starts? with
      | none => rfl
      | some other =>
        have haccepted : c.accepted? = none := by
          rw [FeedCall.starts?] at hstarts
          split at hstarts
          · rename_i hrequest
            rw [FeedCall.accepted?, hrequest]
          · cases hstarts
        rw [haccepted]
        refine if_neg fun hboth => ?_
        cases hboth.1
    rw [heard, if_pos hreaches, hsent, hrest, ← accepted_singleton, ← accepted_append,
      List.singleton_append]

/-- The call that stops the feed is the end of it. -/
theorem heard_of_stopping (hsent : t.dispatched c = [])
    (hstopped : FeedLog.stopped (t ++ [c]) = true) : heard stop t (c :: u) = [] := by
  have hended : FeedLog.reaches (t ++ [c]) stop = false := reaches_eq_false_of_stopped hstopped
  rw [heard, hsent, ite_self, heard_eq_nil hended, List.append_nil]

end FeedLog

/-! ### Phases of a run -/

namespace Feed

variable {f f₀ : Feed ε} {t : FeedLog ε} {rs : List (FeedRequest ε)} {signal stop : SignalId}

theorem any_closes_log (f : Feed ε) (h : .close ∉ rs) : (f.log rs).any FeedCall.closes = false := by
  refine List.any_eq_false.2 fun c hc => ?_
  have hmem := request_mem hc
  rw [FeedCall.closes]
  split
  · rename_i hrequest
    exact absurd (hrequest ▸ hmem) h
  · exact Bool.false_ne_true

theorem fired_log (f : Feed ε) (h : .fire signal ∉ rs) : (f.log rs).fired signal = false := by
  refine List.any_eq_false.2 fun c hc => ?_
  have hmem := request_mem hc
  rw [FeedCall.fires]
  split
  · rename_i other hrequest
    rw [hrequest] at hmem
    intro hsame
    rw [beq_iff_eq.1 hsame] at hmem
    exact h hmem
  · exact Bool.false_ne_true

theorem signal?_log (f : Feed ε) (h : ∀ signal, .start signal ∉ rs) :
    (f.log rs).signal? = none := by
  refine List.findSome?_eq_none_iff.2 fun c hc => ?_
  have hmem := request_mem hc
  rw [FeedCall.starts?]
  split
  · rename_i signal hrequest
    exact absurd (hrequest ▸ hmem) (h signal)
  · rfl

theorem settings_step (f : Feed ε) (r : FeedRequest ε) : (f.step r).2.settings = f.settings := by
  have haccept (refusal : FeedError) (e : ε) :
      (f.accept refusal e).2.settings = f.settings := by
    obtain ⟨ingress, subscriptions, h⟩ := f.exists_snd_accept_eq refusal e
    rw [h]
  cases r with
  | publish e | tryPublish e => exact haccept _ e
  | start signal =>
    change (f.start signal).settings = f.settings
    by_cases hcreated : f.state = .created
    · cases hfired : f.fired.contains signal with
      | false => rw [start_of_created hcreated hfired]
      | true => rw [start_of_fired hcreated hfired]
    · rw [start_of_ne_created hcreated]
  | fire signal =>
    change (f.fire signal).settings = f.settings
    rw [fire_eq]
  | receive id n =>
    rw [snd_step_receive]
    rfl
  | close | subscribe signal capacity | dropSubscription id => rfl

/-- Where every event is taken, a call accepts what it publishes. -/
theorem accepted?_of_ok (h : ∀ refusal e, (f.accept refusal e).1 = .ok ()) (r : FeedRequest ε) :
    FeedCall.accepted? ⟨r, (f.step r).1⟩ = r.published? := by
  cases r with
  | publish e | tryPublish e =>
    rw [step]
    simp only [publish, tryPublish, h]
    rfl
  | _ => rfl

/-- Where every event is refused, a call accepts nothing. -/
theorem accepted?_of_error (h : ∀ refusal e, (f.accept refusal e).1 = .error refusal)
    (r : FeedRequest ε) : FeedCall.accepted? ⟨r, (f.step r).1⟩ = none := by
  cases r with
  | publish e | tryPublish e =>
    rw [step]
    simp only [publish, tryPublish, h]
    rfl
  | _ => rfl

/-- A running feed accepts every event. -/
theorem accepted?_of_running (h : f.state = .running) (r : FeedRequest ε) :
    FeedCall.accepted? ⟨r, (f.step r).1⟩ = r.published? :=
  accepted?_of_ok (fun _ _ => by rw [accept_of_running h]) r

/-- Before the start, a feed accepts an event if there is room in the queue. -/
theorem accepted?_of_created (h : f.state = .created) (r : FeedRequest ε) :
    FeedCall.accepted? ⟨r, (f.step r).1⟩ =
      if f.ingress.length < f.settings.ingressCapacity.toNat then r.published? else none := by
  by_cases hroom : f.ingress.length < f.settings.ingressCapacity.toNat
  · rw [if_pos hroom, accepted?_of_ok fun _ _ => by rw [accept_of_room h hroom]]
  · rw [if_neg hroom, accepted?_of_error fun _ _ => by rw [accept_of_full h hroom]]

/-- The first call of a run, told as the last one of what came before. -/
theorem append_log_cons (t : FeedLog ε) (f : Feed ε) (r : FeedRequest ε)
    (rs : List (FeedRequest ε)) :
    t ++ f.log (r :: rs) = (t ++ [⟨r, (f.step r).1⟩]) ++ (f.step r).2.log rs := by
  rw [List.append_assoc]
  rfl

/-- Before the start, the queue takes the first events that are published. -/
theorem accepted_log_of_created (ht : t.Tells f)
    (hlength : t.accepted.length ≤ f.settings.ingressCapacity.toNat)
    (hcloses : List.any (t ++ f.log rs) FeedCall.closes = false)
    (hsignal : FeedLog.signal? (t ++ f.log rs) = none) :
    FeedLog.accepted (t ++ f.log rs) =
      (t.accepted ++ rs.filterMap FeedRequest.published?).take
        f.settings.ingressCapacity.toNat := by
  induction rs generalizing t f with
  | nil =>
    rw [log, List.filterMap_nil, List.append_nil, List.append_nil, List.take_of_length_le hlength]
  | cons r rs ih =>
    have hcreated : f.state = .created := by
      rw [List.any_append, Bool.or_eq_false_iff] at hcloses
      rw [FeedLog.signal?_append, Option.or_eq_none_iff] at hsignal
      refine ht.state_eq.trans (FeedLog.state_eq_created_iff.2 ⟨?_, hsignal.1⟩)
      rw [FeedLog.stopped, hcloses.1, hsignal.1]
      rfl
    have hcall := accepted?_of_created hcreated r
    rw [ht.ingress_eq hcreated] at hcall
    rw [append_log_cons] at hcloses hsignal ⊢
    have hrest := ih (ht.step r)
    rw [settings_step, FeedLog.accepted_append, FeedLog.accepted_singleton, hcall] at hrest
    have hpublished : (r :: rs).filterMap FeedRequest.published? =
        r.published?.toList ++ rs.filterMap FeedRequest.published? := by
      rw [List.filterMap_cons]
      cases r.published? <;> rfl
    rw [hpublished]
    by_cases hroom : t.accepted.length < f.settings.ingressCapacity.toNat
    · have hlength' : (t.accepted ++ r.published?.toList).length ≤
          f.settings.ingressCapacity.toNat := by
        rw [List.length_append]
        cases r.published? with
        | none => exact hlength
        | some e => exact hroom
      rw [if_pos hroom] at hrest
      rw [hrest hlength' hcloses hsignal, List.append_assoc]
    · have hfull : t.accepted.length = f.settings.ingressCapacity.toNat := by omega
      rw [if_neg hroom, Option.toList_none, List.append_nil] at hrest
      rw [hrest hlength hcloses hsignal, ← hfull, List.take_left, List.take_left]

/-- While the feed runs, it accepts every event that is published. -/
theorem accepted_log_of_running (ht : t.Tells f) (hsignal : t.signal? = some signal)
    (hrunning : FeedLog.state (t ++ f.log rs) = .running) :
    (f.log rs).accepted = rs.filterMap FeedRequest.published? := by
  induction rs generalizing t f with
  | nil => rfl
  | cons r rs ih =>
    have hnow : f.state = .running :=
      ht.state_eq.trans (FeedLog.state_of_append_running hsignal hrunning)
    have hsignal' : FeedLog.signal? (t ++ [⟨r, (f.step r).1⟩]) = some signal := by
      rw [FeedLog.signal?_append, hsignal, Option.some_or]
    rw [append_log_cons] at hrunning
    have hrest := ih (ht.step r) hsignal' hrunning
    change List.filterMap _ (_ :: _) = _
    rw [List.filterMap_cons, List.filterMap_cons, accepted?_of_running hnow]
    cases r.published? with
    | none => exact hrest
    | some e => exact congrArg (e :: ·) hrest

theorem state_log_of_unstarted (f : Feed ε) (hstart : ∀ signal, .start signal ∉ rs)
    (hclose : .close ∉ rs) : (f.log rs).state = .created := by
  have hnosignal := signal?_log f hstart
  refine FeedLog.state_eq_created_iff.2 ⟨?_, hnosignal⟩
  rw [FeedLog.stopped, any_closes_log f hclose, hnosignal]
  rfl

/-- A feed that was not started has accepted the first events that were published. -/
theorem accepted_log_of_unstarted {settings : FeedSettings} (hmake : make settings = .ok f₀)
    (hstart : ∀ signal, .start signal ∉ rs) (hclose : .close ∉ rs) :
    (f₀.log rs).accepted =
      (rs.filterMap FeedRequest.published?).take settings.ingressCapacity.toNat := by
  have hsettings : f₀.settings = settings := by rw [make_eq_ok hmake]
  have haccepted := accepted_log_of_created (tells_make hmake) (Nat.zero_le _)
    (any_closes_log f₀ hclose) (signal?_log f₀ hstart)
  rwa [hsettings] at haccepted

/-- The call that stops a feed, and all calls after it, send nothing. -/
theorem heard_log_of_stopping (hsignal : t.signal? = some signal)
    (hrs : rs = [] ∨ rs.head? = some .close ∨ rs.head? = some (.fire signal)) :
    FeedLog.heard stop t (f.log rs) = [] := by
  cases rs with
  | nil => rfl
  | cons r rs =>
    have hnothing : (if t.state = .running then ([] : List ε) else []) = [] := ite_self _
    rcases hrs with hnil | hclose | hfire
    · cases hnil
    · obtain rfl : r = .close := Option.some.inj hclose
      refine FeedLog.heard_of_stopping hnothing ((FeedLog.stopped_iff _).2 (.inl ?_))
      exact ⟨_, List.mem_concat_self, rfl⟩
    · obtain rfl : r = .fire signal := Option.some.inj hfire
      refine FeedLog.heard_of_stopping hnothing ((FeedLog.stopped_iff _).2 (.inr ⟨signal, ?_, ?_⟩))
      · rw [FeedLog.signal?_append, hsignal, Option.some_or]
      · have hfires : (signal == signal) = true := beq_self_eq_true signal
        rw [FeedLog.fired_append, FeedLog.fired_singleton]
        exact (congrArg _ hfires).trans (Bool.or_true _)

/-- While the feed runs, everything that is published is sent. -/
theorem heard_log_of_running (ht : t.Tells f) (hsignal : t.signal? = some signal)
    (hrunning : FeedLog.state (t ++ f.log rs) = .running)
    (hstop : FeedLog.fired (t ++ f.log rs) stop = false) :
    FeedLog.heard stop t (f.log rs) = rs.filterMap FeedRequest.published? := by
  rw [FeedLog.heard_of_running hsignal hrunning hstop, accepted_log_of_running ht hsignal hrunning]

/-- What reaches a subscription that was made before the start: what the queue took before the
start, and everything published from then on, until the feed is closed or its signal fires. -/
theorem heard_log_of_start {settings : FeedSettings} (hmake : make settings = .ok f₀)
    {before early late rest : List (FeedRequest ε)}
    (hstart : ∀ signal, .start signal ∉ before ++ early)
    (hclose : .close ∉ before ++ early ++ late) (hfire : .fire signal ∉ before ++ early ++ late)
    (hstop : .fire stop ∉ before ++ early ++ late)
    (hrest : rest = [] ∨ rest.head? = some .close ∨ rest.head? = some (.fire signal)) :
    FeedLog.heard stop (f₀.log before)
        ((f₀.run before).log (early ++ .start signal :: (late ++ rest))) =
      ((before ++ early).filterMap FeedRequest.published?).take settings.ingressCapacity.toNat ++
        late.filterMap FeedRequest.published? := by
  rw [List.mem_append, not_or] at hclose hfire hstop
  -- the calls before the start, and the feed at that point
  have hlog : f₀.log before ++ (f₀.run before).log early = f₀.log (before ++ early) :=
    (log_append _ _ _).symm
  have ht : (f₀.log (before ++ early)).Tells (f₀.run (before ++ early)) := tells_log hmake _
  have hunstopped := fired_log f₀ hstop.1
  have hnosignal := signal?_log f₀ hstart
  have hcreated := state_log_of_unstarted f₀ hstart hclose.1
  -- the start, and the calls until the feed is stopped
  have ht' := ht.start signal .none
  have hsignal : FeedLog.signal? (f₀.log (before ++ early) ++ [⟨.start signal, .none⟩]) =
      some signal := by
    rw [FeedLog.signal?_append, hnosignal, Option.none_or]
    rfl
  have hsignal' (calls : FeedLog ε) :
      FeedLog.signal? (f₀.log (before ++ early) ++ [⟨.start signal, .none⟩] ++ calls) =
        some signal := by
    rw [FeedLog.signal?_append, hsignal, Option.some_or]
  have hunfired {s : SignalId} (h : .fire s ∉ before ++ early) (h' : .fire s ∉ late) :
      FeedLog.fired (f₀.log (before ++ early) ++ [⟨.start signal, .none⟩] ++
        ((f₀.run (before ++ early)).start signal).log late) s = false := by
    rw [FeedLog.fired_append, FeedLog.fired_append, fired_log f₀ h, fired_log _ h']
    rfl
  have hrunning : FeedLog.state (f₀.log (before ++ early) ++ [⟨.start signal, .none⟩] ++
      ((f₀.run (before ++ early)).start signal).log late) = .running := by
    refine FeedLog.state_eq_running_iff.2 ⟨?_, signal, hsignal' _⟩
    rw [FeedLog.stopped, hsignal', Option.any_some, hunfired hfire.1 hfire.2, List.any_append,
      List.any_append, any_closes_log f₀ hclose.1, any_closes_log _ hclose.2]
    rfl
  have hcalls : (f₀.run before).log (early ++ .start signal :: (late ++ rest)) =
      (f₀.run before).log early ++ ([⟨.start signal, .none⟩] ++
        (((f₀.run (before ++ early)).start signal).log late ++
          (((f₀.run (before ++ early)).start signal).run late).log rest)) := by
    rw [log_append, ← run_append, ← log_append]
    rfl
  have hearly : FeedLog.heard stop (f₀.log before) ((f₀.run before).log early) = [] :=
    FeedLog.heard_of_signal?_eq_none (hlog ▸ hnosignal)
  rw [hcalls, FeedLog.heard_append, FeedLog.heard_append, FeedLog.heard_append, hlog, hearly,
    FeedLog.heard_start rfl hcreated (fired_log f₀ hfire.1) hunstopped,
    accepted_log_of_unstarted hmake hstart hclose.1,
    heard_log_of_running ht' hsignal hrunning (hunfired hstop.1 hstop.2),
    heard_log_of_stopping (hsignal' _) hrest, List.append_nil, List.nil_append]

end Feed

end ClaimGrid
