import Mathlib.Data.List.Induction
import ClaimGrid.Proofs.Feed.Lifecycle

/-!
# Late starts

A start is late if its signal has fired before. The dispatcher then finds at once that it should end
its work, but it may hand out some of the queued events first, and the relays may pass on some of
those. So after a late start each subscription has got some share of the queue, and the feed is
stopped. `Feed.start` describes the outcome in which nobody has got anything.

Only the first start of a feed can be late. A run of a feed is told, with the share of each
subscription, as if the shares were settled from the beginning.

## Main definitions

* `Feed.StartsLate`: a request is a late start.
* `Feed.shareOut`: a feed after a late start.
* `Feed.stepSharing`, `Feed.runSharing`, `Feed.logSharing`: a call and a run, with the shares.
* `FeedRequest.InTime`: no start is late.

## Main results

* `Feed.sharing_of_inTime`: without a late start, shares do not matter.
-/

namespace ClaimGrid

variable {ε : Type}

/-- The signal of the first start has not fired before it. -/
def FeedRequest.InTime (rs : List (FeedRequest ε)) : Prop :=
  ∀ before signal after, rs = before ++ .start signal :: after →
    (∀ other, .start other ∉ before) → .fire signal ∉ before

theorem FeedRequest.InTime.of_append {rs rs' : List (FeedRequest ε)} (h : InTime (rs ++ rs')) :
    InTime rs := by
  rintro before signal after rfl hfirst
  exact h before signal (after ++ rs') (by rw [List.append_assoc, List.cons_append]) hfirst

/-- Where no signal fires, no start is late. -/
theorem FeedRequest.InTime.of_no_fire {rs : List (FeedRequest ε)}
    (h : ∀ signal, .fire signal ∉ rs) : InTime rs := by
  rintro before signal after rfl - hmem
  exact h signal (List.mem_append_left _ hmem)

namespace Feed

variable {f f₀ : Feed ε} {r : FeedRequest ε} {rs : List (FeedRequest ε)} {c : FeedSettings}
  {signal : SignalId} {share : SubscriptionId → Nat}

/-- A request starts the feed under a signal that has fired. -/
def StartsLate (f : Feed ε) (r : FeedRequest ε) : Prop :=
  f.state = .created ∧ ∃ signal, r = .start signal ∧ f.fired.contains signal = true

/-- The feed after a late start: each subscription has got its share of the queue. -/
def shareOut (share : SubscriptionId → Nat) (signal : SignalId) (f : Feed ε) : Feed ε :=
  { f with
    state := .stopped, guard := some signal
    subscriptions := f.subscriptions.map fun s =>
      ((f.ingress.take (share s.id)).foldl .deliver s).detach }

/-- The answer to a call and the feed after it, where a late start shares the queue out. -/
def stepSharing (share : SubscriptionId → Nat) (f : Feed ε) (r : FeedRequest ε) :
    FeedAnswer ε × Feed ε :=
  match r with
  | .start signal =>
    if f.state = .created ∧ f.fired.contains signal then (.none, f.shareOut share signal)
    else f.step (.start signal)
  | r => f.step r

/-- The feed after a list of calls, where a late start shares the queue out. -/
def runSharing (share : SubscriptionId → Nat) (f : Feed ε) (rs : List (FeedRequest ε)) : Feed ε :=
  rs.foldl (fun f r => (f.stepSharing share r).2) f

/-- The calls of a run with their answers, where a late start shares the queue out. -/
def logSharing (share : SubscriptionId → Nat) (f : Feed ε) : List (FeedRequest ε) → FeedLog ε
  | [] => []
  | r :: rs => ⟨r, (f.stepSharing share r).1⟩ :: logSharing share (f.stepSharing share r).2 rs

/-! ### One call -/

theorem stepSharing_of_late (h : f.state = .created) (hfired : f.fired.contains signal = true) :
    f.stepSharing share (.start signal) = (.none, f.shareOut share signal) :=
  if_pos ⟨h, hfired⟩

theorem stepSharing_of_not_late (h : ¬f.StartsLate r) : f.stepSharing share r = f.step r := by
  cases r with
  | start signal => exact if_neg fun hlate => h ⟨hlate.1, signal, rfl, hlate.2⟩
  | _ => rfl

theorem not_startsLate (h : f.state ≠ .created) (r : FeedRequest ε) : ¬f.StartsLate r :=
  fun hlate => h hlate.1

theorem created_of_stepSharing (h : (f.stepSharing share r).2.state = .created) :
    f.state = .created ∧ r.starts? = none := by
  by_cases hlate : f.StartsLate r
  · obtain ⟨hcreated, signal, rfl, hfired⟩ := hlate
    rw [stepSharing_of_late hcreated hfired] at h
    cases h
  · rw [stepSharing_of_not_late hlate] at h
    exact created_of_step h

/-- What a late start does to a subscription. -/
theorem subscription?_shareOut (share : SubscriptionId → Nat) (signal : SignalId) (f : Feed ε)
    (id : SubscriptionId) :
    (f.shareOut share signal).subscription? id = (f.subscription? id).map fun s =>
      ((f.ingress.take (share id)).foldl .deliver s).detach := by
  have hmap := subscription?_map f (f.shareOut share signal) id
    (g := fun s => ((f.ingress.take (share s.id)).foldl Subscription.deliver s).detach)
    (fun s => s.id_foldl_deliver _) rfl
  rw [hmap]
  refine Option.map_congr fun s hs => ?_
  rw [id_of_subscription? hs]

theorem Numbered.shareOut (h : f.Numbered) (share : SubscriptionId → Nat) (signal : SignalId) :
    (f.shareOut share signal).Numbered :=
  h.of_map (g := fun s => ((f.ingress.take (share s.id)).foldl Subscription.deliver s).detach)
    (fun s => s.id_foldl_deliver _) rfl rfl

/-! ### Runs -/

theorem runSharing_append (share : SubscriptionId → Nat) (f : Feed ε)
    (rs rs' : List (FeedRequest ε)) :
    f.runSharing share (rs ++ rs') = (f.runSharing share rs).runSharing share rs' :=
  List.foldl_append

theorem logSharing_append (share : SubscriptionId → Nat) (f : Feed ε)
    (rs rs' : List (FeedRequest ε)) :
    f.logSharing share (rs ++ rs') =
      f.logSharing share rs ++ (f.runSharing share rs).logSharing share rs' := by
  induction rs generalizing f with
  | nil => rfl
  | cons r rs ih =>
    change _ :: (f.stepSharing share r).2.logSharing share (rs ++ rs') = _
    rw [ih]
    rfl

/-- After the start no further one is late. -/
theorem runSharing_of_ne_created (h : f.state ≠ .created) (share : SubscriptionId → Nat)
    (rs : List (FeedRequest ε)) :
    f.runSharing share rs = f.run rs ∧ f.logSharing share rs = f.log rs := by
  induction rs generalizing f with
  | nil => exact ⟨rfl, rfl⟩
  | cons r rs ih =>
    have hstep : f.stepSharing share r = f.step r := stepSharing_of_not_late (not_startsLate h r)
    have hstate : (f.step r).2.state ≠ .created := fun hcreated => h (created_of_step hcreated).1
    obtain ⟨hrun, hlog⟩ := ih hstate
    constructor
    · change (f.stepSharing share r).2.runSharing share rs = _
      rw [hstep, hrun]
      rfl
    · change ⟨r, (f.stepSharing share r).1⟩ :: (f.stepSharing share r).2.logSharing share rs = _
      rw [hstep, hlog]
      rfl

/-- A run from a feed just made in which no start is late meets none. -/
theorem not_startsLate_of_inTime (hmake : make c = .ok f₀) (h : FeedRequest.InTime (rs ++ [r])) :
    ¬(f₀.run rs).StartsLate r := by
  rintro ⟨hcreated, signal, rfl, hfired⟩
  have htells := tells_log hmake rs
  have hnone := (FeedLog.state_eq_created_iff.1 (htells.state_eq ▸ hcreated)).2
  rw [htells.fired_eq, fired_log_iff] at hfired
  refine h rs signal [] rfl (fun other hmem => ?_) hfired
  rw [signal?_log_eq] at hnone
  cases List.findSome?_eq_none_iff.1 hnone _ hmem

/-- Without a late start, shares do not matter. -/
theorem sharing_of_inTime (hmake : make c = .ok f₀) (h : FeedRequest.InTime rs)
    (share : SubscriptionId → Nat) :
    f₀.runSharing share rs = f₀.run rs ∧ f₀.logSharing share rs = f₀.log rs := by
  induction rs using List.reverseRecOn with
  | nil => exact ⟨rfl, rfl⟩
  | append_singleton rs r ih =>
    obtain ⟨hrun, hlog⟩ := ih h.of_append
    have hstep : (f₀.run rs).stepSharing share r = (f₀.run rs).step r :=
      stepSharing_of_not_late (not_startsLate_of_inTime hmake h)
    constructor
    · rw [runSharing_append, hrun, run_concat, ← hstep]
      rfl
    · rw [logSharing_append, hlog, hrun, log_append]
      refine congrArg _ (congrArg (List.cons · []) ?_)
      rw [hstep]

end Feed

/-! ### What shares do not change -/

/-- The subscription without what its output holds. -/
def Subscription.emptied (s : Subscription ε) : Subscription ε := { s with buffer := [] }

/-- A call without what was read. -/
def FeedCall.emptied (c : FeedCall ε) : FeedCall ε :=
  match c.answer with
  | .received _ => { c with answer := .none }
  | _ => c

namespace Feed

attribute [ext] Feed

/-- The feed without what its outputs hold. -/
def emptied (f : Feed ε) : Feed ε := { f with subscriptions := f.subscriptions.map .emptied }

variable {f f' : Feed ε} {r : FeedRequest ε}

theorem emptied_foldl_deliver (es : List ε) (s : Subscription ε) :
    (es.foldl Subscription.deliver s).emptied = s.emptied := by
  induction es generalizing s with
  | nil => rfl
  | cons e es ih =>
    rw [List.foldl_cons, ih, Subscription.deliver]
    split <;> rfl

/-- What changes the outputs alone cannot be seen in the emptied feed, and what else is done to all
subscriptions alike is done to the emptied ones. -/
theorem map_emptied_map (g g' : Subscription ε → Subscription ε)
    (hg : ∀ s, (g s).emptied = (g' s.emptied).emptied) (ss : List (Subscription ε)) :
    (ss.map g).map .emptied = ((ss.map .emptied).map g').map Subscription.emptied := by
  rw [List.map_map, List.map_map, List.map_map]
  exact List.map_congr_left fun s _ => hg s

theorem emptied_accept (f : Feed ε) (refusal : FeedError) (e : ε) :
    (f.accept refusal e).1 = (f.emptied.accept refusal e).1 ∧
      (f.accept refusal e).2.emptied = (f.emptied.accept refusal e).2.emptied := by
  have hsubscriptions : f.subscriptions.map .emptied =
      (f.subscriptions.map Subscription.emptied).map Subscription.emptied := by
    rw [List.map_map]
    rfl
  cases hstate : f.state with
  | created =>
    by_cases hroom : f.ingress.length < f.settings.ingressCapacity.toNat
    · rw [accept_of_room hstate hroom, accept_of_room (f := f.emptied) hstate hroom]
      exact ⟨rfl, Feed.ext rfl rfl rfl rfl rfl hsubscriptions rfl⟩
    · rw [accept_of_full hstate hroom, accept_of_full (f := f.emptied) hstate hroom]
      exact ⟨rfl, Feed.ext rfl rfl rfl rfl rfl hsubscriptions rfl⟩
  | running =>
    rw [accept_of_running hstate, accept_of_running (f := f.emptied) hstate]
    refine ⟨rfl, Feed.ext rfl rfl rfl rfl rfl (map_emptied_map _ _ (fun s => ?_) _) rfl⟩
    exact (emptied_foldl_deliver [e] s).trans (emptied_foldl_deliver [e] s.emptied).symm
  | stopped =>
    rw [accept_of_stopped hstate, accept_of_stopped (f := f.emptied) hstate]
    exact ⟨rfl, Feed.ext rfl rfl rfl rfl rfl hsubscriptions rfl⟩

/-- What becomes of the feed, apart from its outputs, does not depend on them or on the shares. -/
theorem emptied_stepSharing (share : SubscriptionId → Nat) (f : Feed ε) (r : FeedRequest ε) :
    FeedCall.emptied ⟨r, (f.stepSharing share r).1⟩ = FeedCall.emptied ⟨r, (f.emptied.step r).1⟩ ∧
      (f.stepSharing share r).2.emptied = (f.emptied.step r).2.emptied := by
  cases r with
  | publish e | tryPublish e =>
    obtain ⟨hanswer, hfeed⟩ := f.emptied_accept _ e
    exact ⟨congrArg (fun outcome => FeedCall.emptied ⟨_, .published outcome⟩) hanswer, hfeed⟩
  | start signal =>
    refine ⟨by rw [stepSharing]; split <;> rfl, ?_⟩
    change _ = (f.emptied.start signal).emptied
    by_cases hcreated : f.state = .created
    · cases hfired : f.fired.contains signal with
      | true =>
        rw [stepSharing_of_late hcreated hfired,
          start_of_fired (f := f.emptied) hcreated hfired]
        refine Feed.ext rfl rfl rfl rfl rfl (map_emptied_map _ _ (fun s => ?_) _) rfl
        exact congrArg Subscription.detach (emptied_foldl_deliver _ s)
      | false =>
        have hlate : ¬f.StartsLate (.start signal) := by
          rintro ⟨-, other, hsame, hother⟩
          obtain rfl := FeedRequest.start.inj hsame
          rw [hfired] at hother
          cases hother
        rw [stepSharing_of_not_late hlate]
        change (f.start signal).emptied = _
        rw [start_of_created hcreated hfired, start_of_created (f := f.emptied) hcreated hfired]
        refine Feed.ext rfl rfl rfl rfl rfl (map_emptied_map _ _ (fun s => ?_) _) rfl
        exact (emptied_foldl_deliver _ s).trans (emptied_foldl_deliver _ s.emptied).symm
    · rw [stepSharing_of_not_late (not_startsLate hcreated _)]
      change (f.start signal).emptied = _
      rw [start_of_ne_created hcreated, start_of_ne_created (f := f.emptied) hcreated]
      refine Feed.ext rfl rfl rfl rfl rfl ?_ rfl
      change f.subscriptions.map _ = (f.subscriptions.map Subscription.emptied).map _
      rw [List.map_map]
      rfl
  | close =>
    refine ⟨rfl, Feed.ext rfl rfl rfl rfl rfl ?_ rfl⟩
    exact map_emptied_map .detach .detach (fun _ => rfl) f.subscriptions
  | fire signal =>
    refine ⟨rfl, ?_⟩
    change (f.fire signal).emptied = (f.emptied.fire signal).emptied
    rw [fire_eq, fire_eq]
    refine Feed.ext rfl rfl rfl rfl rfl (map_emptied_map _ _ (fun s => ?_) _) rfl
    change _ = Subscription.emptied
      (if s.stop = signal ∨ f.runsUnder signal then s.emptied.detach else s.emptied)
    split <;> rfl
  | subscribe signal capacity =>
    refine ⟨rfl, Feed.ext rfl rfl rfl rfl rfl ?_ rfl⟩
    change (f.subscriptions ++ [_]).map _ = (f.subscriptions.map Subscription.emptied ++ [_]).map _
    rw [List.map_append, List.map_append, List.map_map]
    rfl
  | dropSubscription id =>
    refine ⟨rfl, Feed.ext rfl rfl rfl rfl rfl ?_ rfl⟩
    change (f.subscriptions.filter _).map _ =
      ((f.subscriptions.map Subscription.emptied).filter _).map _
    rw [List.filter_map, List.map_map]
    rfl
  | receive id n =>
    refine ⟨rfl, ?_⟩
    change (f.step _).2.emptied = _
    rw [snd_step_receive, snd_step_receive]
    refine Feed.ext rfl rfl rfl rfl rfl (map_emptied_map _ _ (fun s => ?_) _) rfl
    change _ = Subscription.emptied
      (if s.id = id then { s.emptied with buffer := s.emptied.buffer.drop n } else s.emptied)
    split <;> rfl

/-- Who is attached can be told from the emptied feed. -/
theorem any_attached_of_emptied (h : f.emptied = f'.emptied) (id : SubscriptionId) :
    (f.subscription? id).any (·.attached) = (f'.subscription? id).any (·.attached) := by
  have hemptied (f : Feed ε) :
      (f.subscription? id).any (·.attached) = (f.emptied.subscription? id).any (·.attached) := by
    rw [subscription?_map f f.emptied id (g := .emptied) (fun _ => rfl) rfl, Option.any_map]
    rfl
  rw [hemptied f, h, ← hemptied f']

/-- Two feeds that differ in what their outputs hold go on alike otherwise, whatever the shares. -/
theorem emptied_runSharing (h : f.emptied = f'.emptied) (share share' : SubscriptionId → Nat)
    (rs : List (FeedRequest ε)) :
    (f.logSharing share rs).map FeedCall.emptied =
        (f'.logSharing share' rs).map FeedCall.emptied ∧
      (f.runSharing share rs).emptied = (f'.runSharing share' rs).emptied := by
  induction rs generalizing f f' with
  | nil => exact ⟨rfl, h⟩
  | cons r rs ih =>
    obtain ⟨hanswer, hfeed⟩ := f.emptied_stepSharing share r
    obtain ⟨hanswer', hfeed'⟩ := f'.emptied_stepSharing share' r
    rw [h, ← hanswer'] at hanswer
    rw [h, ← hfeed'] at hfeed
    obtain ⟨hlog, hrun⟩ := ih hfeed
    refine ⟨?_, hrun⟩
    rw [logSharing, logSharing, List.map_cons, List.map_cons, hanswer, hlog]

end Feed

end ClaimGrid
