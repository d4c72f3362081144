import ClaimGrid.Proofs.Feed.Schedules
import ClaimGrid.Proofs.Feed.Sharing

/-!
# A hub at rest is a feed

Between two rests of a hub the dispatcher and the relays make their moves in any order. As long as
no event is lost, the hub is found at rest where a feed stands after the same call, with the same
answer. Only a late start leaves something open, and no more than the share of the queue that each
subscription gets.

## Main definitions

* `Hub.Rests`: a hub at rest is where a feed stands.
* `Hub.Matches`: a hub after a call, before any move, and a feed after the same call.

## Main results

* `Hub.Rests.call`: one call, and any schedule of the moves after it.
* `Hub.Rests.exists_settles`: one call, and a schedule that hands out a given part of the queue.
* `Hub.Rests.settles_of_room`: one call, where the relay queues are long enough.
* `Hub.Rests.mem_registered_iff`: who is registered at rest.
* `Hub.rests_make`: a hub just made.
-/

namespace ClaimGrid

variable {ε : Type}

namespace Hub

open Relation

variable {h h' : Hub ε} {f F : Feed ε} {r : FeedRequest ε} {id : SubscriptionId} {signal : SignalId}
  {share : SubscriptionId → Nat}

/-! ### A hub right after a call -/

/-- What is done on one lane does not change what other subscribers have. -/
theorem subscription?_modify {other : SubscriptionId} (hother : other ≠ id) (g : Lane ε → Lane ε) :
    subscription? { h with lanes := h.lanes.modify other g } id = h.subscription? id := by
  change ((h.lanes.modify other g)[id]?).bind _ = _
  rw [List.getElem?_modify_ne g h.lanes hother]
  rfl

/-- A call that neither reads a subscription nor makes or drops it leaves it as it is. -/
theorem subscription?_call (hdrop : r ≠ .dropSubscription id) (hread : ∀ n, r ≠ .receive id n)
    (hnew : ∀ signal capacity, r = .subscribe signal capacity → h.lanes.length ≠ id) :
    (h.call r).2.subscription? id = h.subscription? id := by
  have haccept (refusal : FeedError) (e : ε) :
      (h.accept refusal e).2.subscription? id = h.subscription? id := by
    rw [accept]
    split
    · rfl
    · split <;> rfl
  cases r with
  | publish e | tryPublish e => exact haccept _ e
  | start signal =>
    change (h.start signal).subscription? id = _
    rw [start]
    split <;> rfl
  | close =>
    change h.close.subscription? id = _
    rw [close]
    split <;> rfl
  | fire signal => rfl
  | subscribe signal capacity =>
    have hother := hnew signal capacity rfl
    change ((h.lanes ++ [_])[id]?).bind _ = _
    rw [List.getElem?_append]
    split
    · rfl
    · rename_i hge
      rw [List.getElem?_eq_none, Option.bind_none, subscription?,
        List.getElem?_eq_none (Nat.le_of_not_lt hge), Option.bind_none]
      rw [List.length_singleton]
      omega
  | dropSubscription other => exact subscription?_modify (fun hsame => hdrop (congrArg _ hsame)) _
  | receive other n =>
    change (h.receive other n).2.subscription? id = _
    rw [receive]
    split
    · rfl
    · exact subscription?_modify (fun hsame => hread n (by rw [hsame])) _

theorem subscription?_subscribe (h : Hub ε) (signal : SignalId) (capacity : Nat) :
    (h.subscribe signal capacity).2.subscription? h.lanes.length =
      some ⟨h.lanes.length, signal, max capacity 1, [], h.state ≠ .stopped⟩ := by
  change ((h.lanes ++ [_])[h.lanes.length]?).bind _ = _
  rw [List.getElem?_concat_length]
  rfl

theorem subscription?_dropSubscription (h : Hub ε) (id : SubscriptionId) :
    (h.dropSubscription id).subscription? id = none := by
  change ((h.lanes.modify id _)[id]?).bind _ = none
  rw [List.getElem?_modify_eq]
  cases h.lanes[id]? <;> rfl

theorem subscription?_take (h : Hub ε) (id : SubscriptionId) (n : Nat) :
    (h.take id n).subscription? id =
      (h.subscription? id).map fun s => { s with buffer := s.buffer.drop n } := by
  change ((h.lanes.modify id _)[id]?).bind _ = _
  rw [List.getElem?_modify_eq, subscription?]
  cases h.lanes[id]? with
  | none => rfl
  | some l =>
    change (if l.abandoned then none else _) = Option.map _ (if l.abandoned then none else _)
    split <;> rfl

/-- Reading changes what the reader has, and nothing else. -/
theorem snd_receive (h : Hub ε) (id : SubscriptionId) (n : Nat) :
    (h.receive id n).2 = if (h.subscription? id).isSome then h.take id n else h := by
  rw [receive]
  split
  · rename_i hnone
    rw [hnone]
    rfl
  · rename_i s hfound
    rw [hfound]
    rfl

/-! ### Where a feed stands -/

/-- A hub, once its dispatcher has found whether to end its work, is where a feed stands, apart from
what subscribers have. -/
structure Stands (h : Hub ε) (f : Feed ε) : Prop where
  settings_eq : f.settings = h.settings
  fired_eq : f.fired = h.fired
  state_eq : f.state = if h.Halts then .stopped else h.state
  guard_eq : f.state = .running → f.guard = h.dispatcher
  ingress_eq : f.state = .created → f.ingress = h.ingress.items
  nextId_eq : f.nextId = h.lanes.length
  numbered : f.Numbered

/-- A hub at rest is where a feed stands. -/
structure Rests (h : Hub ε) (f : Feed ε) : Prop extends Stands h f where
  sound : h.Sound
  atRest : h.AtRest
  subscription?_eq : ∀ id, f.subscription? id = h.subscription? id

/-- A hub after a call, before any move, matches a feed after the same call: what waits for the
dispatcher, each subscription will have its share of. -/
structure Matches (share : SubscriptionId → Nat) (h : Hub ε) (f : Feed ε) : Prop extends
    Stands h f where
  subscription?_eq : ∀ id, f.subscription? id = (h.subscription? id).map fun s =>
    { (h.pending.take (share id)).foldl .deliver s with attached := f.reaches s.stop }

/-- A hub that matched a feed is, at rest, where the feed stands. -/
theorem Settled.rests (hs : h.Sound) (hsettled : Settled h h' share) (hm : Matches share h F) :
    Rests h' F := by
  have hgoes := hsettled.atRest.not_halts
  have hstate : F.state = h'.state := hm.state_eq.trans hsettled.state_eq.symm
  have hhalts (hopen : F.state ≠ .stopped) : ¬h.Halts := fun hhalts => hopen <| by
    rw [hm.state_eq, if_pos hhalts]
  have hfired : F.fired = h'.fired := hm.fired_eq.trans hsettled.fired_eq.symm
  refine ⟨⟨hm.settings_eq.trans hsettled.settings_eq.symm, hfired, ?_, fun hrunning => ?_,
    fun hcreated => ?_, hm.nextId_eq.trans hsettled.length_eq.symm, hm.numbered⟩, hsettled.sound,
    hsettled.atRest, fun id => ?_⟩
  · rw [if_neg hgoes, hstate]
  · have hopen := hhalts (by rw [hrunning]; nofun)
    rw [hm.guard_eq hrunning, hsettled.dispatcher_eq, if_neg hopen]
  · have hopen := hhalts (by rw [hcreated]; nofun)
    have hbefore := hm.state_eq
    rw [if_neg hopen, hcreated] at hbefore
    rw [hm.ingress_eq hcreated, hsettled.ingress_eq (hs.dispatcher_eq_none hbefore.symm)]
  · have hreaches (stop : SignalId) : F.reaches stop = h'.reaches stop := by
      rw [Feed.reaches, reaches, hstate, hfired]
    rw [hm.subscription?_eq, hsettled.subscription?_eq]
    simp only [hreaches]

namespace Rests

theorem state_eq' (hr : Rests h f) : f.state = h.state := by
  rw [hr.state_eq, if_neg hr.atRest.not_halts]

theorem dispatcher_eq_none (hr : Rests h f) (hstate : h.state ≠ .running) :
    h.dispatcher = none := by
  cases hbefore : h.state with
  | created => exact hr.sound.dispatcher_eq_none hbefore
  | running => exact absurd hbefore hstate
  | stopped =>
    refine Option.eq_none_iff_forall_not_mem.2 fun signal hsignal => ?_
    exact hr.atRest.not_halts ⟨signal, hsignal, .inr hbefore⟩

theorem pending_eq_nil (hr : Rests h f) : h.pending = [] := by
  rw [pending]
  split
  · exact hr.atRest.ingress_eq_nil ‹_›
  · rfl

/-- At rest, what a subscriber has is attached as long as events reach it. -/
theorem attached_eq (hr : Rests h f) {s : Subscription ε} (hfound : f.subscription? id = some s) :
    s.attached = f.reaches s.stop := by
  rw [hr.subscription?_eq] at hfound
  obtain ⟨l, hl, hkept, rfl⟩ := subscription?_eq_some hfound
  rw [Feed.reaches, hr.state_eq', hr.fired_eq]
  exact hr.atRest.working_eq hr.sound (List.mem_of_getElem? hl) hkept

/-! ### Publishing -/

theorem accept_of_stopped (hstate : h.state = .stopped) (refusal : FeedError) (e : ε) :
    h.accept refusal e = (.error .stopped, h) := if_pos hstate

theorem accept_of_full (hopen : h.state ≠ .stopped)
    (hfull : ¬h.ingress.items.length < h.ingress.capacity) (refusal : FeedError) (e : ε) :
    h.accept refusal e = (.error refusal, h) := by
  have hsend : h.ingress.trySend? e = none :=
    BoundedQueue.trySend?_eq_none_iff.2 ((BoundedQueue.isFull_iff _).2 hfull)
  rw [Hub.accept, if_neg hopen, hsend]

theorem accept_of_room (hopen : h.state ≠ .stopped)
    (hroom : h.ingress.items.length < h.ingress.capacity) (refusal : FeedError) (e : ε) :
    ∃ ingress, ingress.items = h.ingress.items ++ [e] ∧
      h.accept refusal e = (.ok (), { h with ingress := ingress }) := by
  obtain ⟨ingress, hsend⟩ := BoundedQueue.exists_trySend?_of_not_isFull
    (Bool.eq_false_iff.2 fun hfull => (BoundedQueue.isFull_iff _).1 hfull hroom) e
  refine ⟨ingress, (BoundedQueue.trySend?_eq_some hsend).2, ?_⟩
  rw [Hub.accept, if_neg hopen, hsend]

/-- An event is taken in alike, and waits for the dispatcher if there is one. -/
theorem accept (hr : Rests h f) (refusal : FeedError) (e : ε) :
    (h.accept refusal e).1 = (f.accept refusal e).1 ∧
      Stands (h.accept refusal e).2 (f.accept refusal e).2 ∧
      (h.accept refusal e).2.pending = if f.state = .running then [e] else [] := by
  have hstate := hr.state_eq'
  cases hbefore : h.state with
  | stopped =>
    rw [accept_of_stopped hbefore, Feed.accept_of_stopped (hstate.trans hbefore), hstate, hbefore]
    exact ⟨rfl, hr.toStands, hr.pending_eq_nil⟩
  | created =>
    have hopen : h.state ≠ .stopped := by rw [hbefore]; decide
    have hcreated : f.state = .created := hstate.trans hbefore
    have hroom : h.ingress.items.length < h.ingress.capacity ↔
        f.ingress.length < f.settings.ingressCapacity.toNat := by
      rw [hr.ingress_eq hcreated, hr.settings_eq, hr.sound.ingress_capacity]
    rw [hcreated, if_neg (by decide)]
    by_cases hfits : h.ingress.items.length < h.ingress.capacity
    · obtain ⟨ingress, hitems, haccept⟩ := accept_of_room hopen hfits refusal e
      rw [haccept, Feed.accept_of_room hcreated (hroom.1 hfits)]
      refine ⟨rfl, { hr.toStands with ingress_eq := fun _ => ?_ }, ?_⟩
      · rw [hr.ingress_eq hcreated, hitems]
      · rw [pending, hr.sound.dispatcher_eq_none hbefore]
        rfl
    · rw [accept_of_full hopen hfits, Feed.accept_of_full hcreated (mt hroom.2 hfits)]
      exact ⟨rfl, hr.toStands, hr.pending_eq_nil⟩
  | running =>
    have hopen : h.state ≠ .stopped := by rw [hbefore]; decide
    have hrunning : f.state = .running := hstate.trans hbefore
    have hworking := hr.sound.dispatcher_isSome hbefore
    have hempty := hr.atRest.ingress_eq_nil hworking
    obtain ⟨ingress, hitems, haccept⟩ := accept_of_room hopen
      (by rw [hempty]; exact h.ingress.capacity_pos) refusal e
    rw [haccept, Feed.accept_of_running hrunning, hrunning, if_pos rfl]
    refine ⟨rfl, { hr.toStands with
      numbered := hr.numbered.of_map (fun s => s.id_foldl_deliver [e]) rfl rfl
      ingress_eq := fun hcreated => ?_ }, ?_⟩
    · cases hrunning.symm.trans hcreated
    · rw [pending, if_pos hworking, hitems, hempty]
      rfl

/-! ### Starting and stopping -/

/-- A start in time sets the dispatcher to work on the queue. -/
theorem start (hr : Rests h f) (hlate : ¬f.StartsLate (.start signal)) :
    Stands (h.start signal) (f.start signal) ∧
      (h.start signal).pending = f.sends (.start signal) := by
  have hstate := hr.state_eq'
  by_cases hcreated : f.state = .created
  · have hfired : f.fired.contains signal = false :=
      Bool.eq_false_iff.2 fun hfired => hlate ⟨hcreated, signal, rfl, hfired⟩
    have hsilent : signal ∉ h.fired := fun hmem => by
      rw [hr.fired_eq, List.contains_iff_mem.2 hmem] at hfired
      cases hfired
    have hgoes : ¬Halts { h with state := .running, dispatcher := some signal } := by
      rintro ⟨other, hother, hmem | hstopped⟩
      · obtain rfl := Option.some.inj hother
        exact hsilent hmem
      · cases hstopped
    have hsends : f.sends (.start signal) = f.ingress := if_pos ⟨hcreated, hfired⟩
    rw [Hub.start, if_pos (hstate.symm.trans hcreated), Feed.start_of_created hcreated hfired,
      hsends, hr.ingress_eq hcreated]
    refine ⟨⟨hr.settings_eq, hr.fired_eq, (if_neg hgoes).symm, fun _ => rfl, fun hidle => ?_,
      hr.nextId_eq, ?_⟩, rfl⟩
    · cases hidle
    · exact hr.numbered.of_map (fun s => s.id_foldl_deliver _) rfl rfl
  · have hsends : f.sends (.start signal) = [] := if_neg fun h => hcreated h.1
    rw [Hub.start, if_neg fun h => hcreated (hstate.trans h), Feed.start_of_ne_created hcreated,
      hsends]
    exact ⟨hr.toStands, hr.pending_eq_nil⟩

theorem close (hr : Rests h f) : Stands h.close f.close ∧ h.close.pending = [] := by
  have hclose := close_eq h hr.sound.registered_eq_nil
  rw [hclose]
  refine ⟨⟨hr.settings_eq, hr.fired_eq, (ite_self _).symm, nofun, nofun, hr.nextId_eq, ?_⟩,
    hr.pending_eq_nil⟩
  exact hr.numbered.of_map (g := .detach) (fun _ => rfl) rfl rfl

theorem fire (hr : Rests h f) (signal : SignalId) :
    Stands (h.fire signal) (f.fire signal) ∧ (h.fire signal).pending = [] := by
  have hstate := hr.state_eq'
  have hhalts : (h.fire signal).Halts ↔ f.runsUnder signal = true := by
    rw [Feed.runsUnder, Feed.isRunning, Bool.and_eq_true, decide_eq_true_eq, decide_eq_true_eq]
    constructor
    · rintro ⟨other, hother, hends⟩
      have hrunning : h.state = .running := by
        by_contra hne
        have hnone : (h.fire signal).dispatcher = none := hr.dispatcher_eq_none hne
        rw [hnone] at hother
        cases hother
      refine ⟨hstate.trans hrunning, ?_⟩
      rcases hends with hmem | hstopped
      · rw [hr.guard_eq (hstate.trans hrunning)]
        rcases List.mem_cons.1 hmem with rfl | hold
        · exact hother
        · exact absurd ⟨other, hother, .inl hold⟩ hr.atRest.not_halts
      · cases hrunning.symm.trans hstopped
    · rintro ⟨hrunning, hguard⟩
      refine ⟨signal, ?_, .inl List.mem_cons_self⟩
      rw [hr.guard_eq hrunning] at hguard
      exact hguard
  refine ⟨?_, hr.pending_eq_nil⟩
  rw [Feed.fire_eq]
  refine ⟨hr.settings_eq, congrArg _ hr.fired_eq, if_congr hhalts.symm rfl hstate,
    fun hrunning => ?_, fun hcreated => ?_, hr.nextId_eq, ?_⟩
  · refine hr.guard_eq ?_
    dsimp only at hrunning
    split at hrunning
    · cases hrunning
    · exact hrunning
  · refine hr.ingress_eq ?_
    dsimp only at hcreated
    split at hcreated
    · cases hcreated
    · exact hcreated
  · exact hr.numbered.of_map (fun s => by split <;> rfl) rfl rfl

/-! ### Any call -/

theorem fst_receive (hr : Rests h f) (id : SubscriptionId) (n : Nat) :
    (h.receive id n).1 = (f.receive id n).1 := by
  rw [Feed.receive_eq, hr.subscription?_eq, Hub.receive]
  cases h.subscription? id <;> rfl

theorem receive (hr : Rests h f) (id : SubscriptionId) (n : Nat) :
    Stands (h.receive id n).2 (f.take id n) ∧ (h.receive id n).2.pending = [] := by
  have hnumbered : (f.take id n).Numbered := hr.numbered.of_map (fun s => by split <;> rfl) rfl rfl
  rw [snd_receive]
  split
  · refine ⟨{ hr.toStands with nextId_eq := ?_, numbered := hnumbered }, hr.pending_eq_nil⟩
    exact hr.nextId_eq.trans (List.length_modify ..).symm
  · exact ⟨{ hr.toStands with numbered := hnumbered }, hr.pending_eq_nil⟩

/-- Unless it is a late start, a call answers alike, leaves a hub where the feed stands, and has
those events wait for the dispatcher that the feed sends. -/
theorem call_stands (hr : Rests h f) (hlate : ¬f.StartsLate r) :
    (h.call r).1 = (f.step r).1 ∧ Stands (h.call r).2 (f.step r).2 ∧
      (h.call r).2.pending = f.sends r := by
  cases r with
  | publish e =>
    obtain ⟨hanswer, hstands, hpending⟩ := hr.accept (.timeout h.settings.sendTimeout) e
    rw [← hr.settings_eq] at hanswer hstands hpending
    refine ⟨congrArg FeedAnswer.published ?_, ?_, ?_⟩
    · rwa [Hub.publish, Feed.publish, ← hr.settings_eq]
    · rwa [Hub.call, Hub.publish, ← hr.settings_eq]
    · rwa [Hub.call, Hub.publish, ← hr.settings_eq]
  | tryPublish e =>
    obtain ⟨hanswer, hstands, hpending⟩ := hr.accept .full e
    exact ⟨congrArg FeedAnswer.published hanswer, hstands, hpending⟩
  | start signal => exact ⟨rfl, hr.start hlate⟩
  | close => exact ⟨rfl, hr.close⟩
  | fire signal => exact ⟨rfl, hr.fire signal⟩
  | subscribe signal capacity =>
    refine ⟨congrArg FeedAnswer.subscribed hr.nextId_eq.symm, { hr.toStands with
      nextId_eq := ?_, numbered := hr.numbered.step (.subscribe signal capacity) },
      hr.pending_eq_nil⟩
    change f.nextId + 1 = (h.lanes ++ [_]).length
    rw [hr.nextId_eq, List.length_append, List.length_singleton]
  | dropSubscription id =>
    refine ⟨rfl, { hr.toStands with
      nextId_eq := ?_, numbered := hr.numbered.step (.dropSubscription id) }, hr.pending_eq_nil⟩
    exact hr.nextId_eq.trans (List.length_modify ..).symm
  | receive id n =>
    rw [Feed.snd_step_receive]
    exact ⟨congrArg FeedAnswer.received (hr.fst_receive id n), hr.receive id n⟩

/-- What a subscriber has after a call, once the events that wait have arrived. -/
theorem subscription?_step (hr : Rests h f) (id : SubscriptionId) :
    (f.step r).2.subscription? id = ((h.call r).2.subscription? id).map fun s =>
      { (f.sends r).foldl .deliver s with attached := (f.step r).2.reaches s.stop } := by
  by_cases hdrop : r = .dropSubscription id
  · subst hdrop
    have hgone : (h.call (.dropSubscription id)).2.subscription? id = none :=
      h.subscription?_dropSubscription id
    rw [hgone]
    exact Feed.subscription?_dropSubscription f id
  by_cases hread : ∃ n, r = .receive id n
  · obtain ⟨n, rfl⟩ := hread
    have hreaches (stop : SignalId) : (f.step (.receive id n)).2.reaches stop = f.reaches stop := by
      rw [Feed.snd_step_receive]
      rfl
    change _ = ((h.receive id n).2.subscription? id).map _
    cases hfound : f.subscription? id with
    | none =>
      rw [snd_receive, ← hr.subscription?_eq, hfound, if_neg (by simp), ← hr.subscription?_eq,
        hfound]
      exact Feed.subscription?_step_of_none hfound fun _ _ hsame => by cases hsame
    | some s =>
      rw [Feed.subscription?_receive hfound, snd_receive, ← hr.subscription?_eq, hfound,
        if_pos (Option.isSome_some), subscription?_take, ← hr.subscription?_eq, hfound]
      simp only [Option.map_some, hreaches, ← hr.attached_eq hfound]
      rfl
  have hread' (n : Nat) : r ≠ .receive id n := fun hn => hread ⟨n, hn⟩
  by_cases hnew : ∃ signal capacity, r = .subscribe signal capacity ∧ h.lanes.length = id
  · obtain ⟨signal, capacity, rfl, rfl⟩ := hnew
    change _ = ((h.subscribe signal capacity).2.subscription? _).map _
    rw [subscription?_subscribe, ← hr.nextId_eq, Feed.subscription?_subscribe hr.numbered]
    rfl
  · have hnew' (signal : SignalId) (capacity : Nat) (hsubscribe : r = .subscribe signal capacity) :
        h.lanes.length ≠ id := fun hid => hnew ⟨signal, capacity, hsubscribe, hid⟩
    rw [subscription?_call hdrop hread' hnew', ← hr.subscription?_eq]
    cases hfound : f.subscription? id with
    | none =>
      rw [← hr.nextId_eq] at hnew'
      exact Feed.subscription?_step_of_none hfound hnew'
    | some s => exact Feed.subscription?_step hfound (hr.attached_eq hfound) hdrop hread'

/-! ### Before any move -/

theorem exists_snd_accept_eq (h : Hub ε) (refusal : FeedError) (e : ε) :
    ∃ ingress, (h.accept refusal e).2 = { h with ingress := ingress } := by
  rw [Hub.accept]
  split
  · exact ⟨h.ingress, rfl⟩
  · split
    · exact ⟨_, rfl⟩
    · exact ⟨h.ingress, rfl⟩

/-- A call puts no event on a lane. -/
theorem idle (hr : Rests h f) (r : FeedRequest ε) {l : Lane ε} (hl : l ∈ (h.call r).2.lanes)
    (hworking : l.working = true) : l.due = [] := by
  have hold {l : Lane ε} (hl : l ∈ h.lanes) (hworking : l.working = true) : l.due = [] :=
    hr.atRest.due_eq_nil hl hworking
  have haccept (refusal : FeedError) (e : ε) (hl : l ∈ (h.accept refusal e).2.lanes) :
      l ∈ h.lanes := by
    obtain ⟨ingress, heq⟩ := exists_snd_accept_eq h refusal e
    rwa [heq] at hl
  have hmodify {id : SubscriptionId} {g : Lane ε → Lane ε} (hdue : ∀ l, (g l).due = l.due)
      (hworks : ∀ l, (g l).working = l.working) (hl : l ∈ h.lanes.modify id g) : l.due = [] := by
    obtain ⟨place, hplace⟩ := List.mem_iff_getElem?.1 hl
    rw [List.getElem?_modify, Option.map_eq_map, Option.map_eq_some_iff] at hplace
    obtain ⟨l₀, hl₀, rfl⟩ := hplace
    have hmem := List.mem_of_getElem? hl₀
    split at hworking
    · rw [if_pos ‹_›, hdue]
      exact hold hmem ((hworks l₀).symm.trans hworking)
    · rw [if_neg ‹_›]
      exact hold hmem hworking
  cases r with
  | publish e | tryPublish e => exact hold (haccept _ e hl) hworking
  | start signal =>
    change l ∈ (h.start signal).lanes at hl
    rw [Hub.start] at hl
    split at hl <;> exact hold hl hworking
  | close =>
    change l ∈ h.close.lanes at hl
    rw [close_eq h hr.sound.registered_eq_nil] at hl
    exact hold hl hworking
  | fire signal => exact hold hl hworking
  | subscribe signal capacity =>
    rcases List.mem_append.1 hl with hbefore | hnew
    · exact hold hbefore hworking
    · rw [List.mem_singleton.1 hnew]
      rfl
  | dropSubscription id =>
    exact hmodify (g := fun l => { l with abandoned := true }) (fun _ => rfl) (fun _ => rfl) hl
  | receive id n =>
    change l ∈ (h.receive id n).2.lanes at hl
    rw [snd_receive] at hl
    split at hl
    · exact hmodify (g := fun l => { l with output := l.output.skip n }) (fun _ => rfl)
        (fun _ => rfl) hl
    · exact hold hl hworking

/-- Where a call has events wait, no relay is about to end its work. -/
theorem calm (hr : Rests h f) (hpending : (h.call r).2.pending ≠ []) :
    (h.call r).2.state ≠ .stopped ∧
      ∀ l ∈ (h.call r).2.lanes, l.working = true → ¬(h.call r).2.Ended l := by
  have hended {l : Lane ε} (hl : l ∈ h.lanes) (hworking : l.working = true) : ¬h.Ended l :=
    hr.atRest.not_ended hl hworking
  have haccept (refusal : FeedError) (e : ε) (hpending : (h.accept refusal e).2.pending ≠ []) :
      (h.accept refusal e).2.state ≠ .stopped ∧
        ∀ l ∈ (h.accept refusal e).2.lanes, l.working = true → ¬(h.accept refusal e).2.Ended l := by
    rw [(hr.accept refusal e).2.2] at hpending
    have hrunning : f.state = .running := by
      by_contra hne
      exact hpending (if_neg hne)
    obtain ⟨ingress, heq⟩ := exists_snd_accept_eq h refusal e
    rw [heq]
    refine ⟨fun hstopped => ?_, fun l hl hworking => hended hl hworking⟩
    cases (hr.state_eq'.symm.trans hrunning).symm.trans hstopped
  have hnothing : h.pending = [] := hr.pending_eq_nil
  cases r with
  | publish e | tryPublish e => exact haccept _ e hpending
  | start signal =>
    change (h.start signal).pending ≠ [] at hpending
    change (h.start signal).state ≠ .stopped ∧ ∀ l ∈ (h.start signal).lanes, l.working = true →
      ¬(h.start signal).Ended l
    rw [Hub.start] at hpending ⊢
    split
    · refine ⟨fun hstopped => ?_, fun l hl hworking hends => hended hl hworking ?_⟩
      · cases hstopped
      · rcases hends with hfired | habandoned | hstopped
        · exact .inl hfired
        · exact .inr (.inl habandoned)
        · cases hstopped
    · rw [if_neg ‹_›] at hpending
      exact absurd hnothing hpending
  | close => exact absurd hr.close.2 hpending
  | fire signal => exact absurd hnothing hpending
  | subscribe signal capacity => exact absurd hnothing hpending
  | dropSubscription id => exact absurd hnothing hpending
  | receive id n => exact absurd (hr.receive id n).2 hpending

/-- A hub right after a call is loaded. -/
theorem loaded (hr : Rests h f) (r : FeedRequest ε) : (h.call r).2.Loaded :=
  ⟨hr.sound.call r, fun _ hl hworking => hr.idle r hl hworking, or_iff_not_imp_left.2 hr.calm⟩

/-! ### One round -/

/-- After a late start, the hub matches a feed that has shared the queue out. -/
theorem matches_shareOut (hr : Rests h f) (hcreated : f.state = .created)
    (hfired : f.fired.contains signal = true) (share : SubscriptionId → Nat) :
    Matches share (h.start signal) (f.shareOut share signal) := by
  have hbefore : h.state = .created := hr.state_eq'.symm.trans hcreated
  have hstart : h.start signal = { h with state := .running, dispatcher := some signal } :=
    if_pos hbefore
  have hhalts : (h.start signal).Halts := by
    rw [hstart]
    refine ⟨signal, rfl, .inl ?_⟩
    rw [← List.contains_iff_mem, ← hr.fired_eq]
    exact hfired
  have hpending : (h.start signal).pending = f.ingress := by
    rw [hstart, hr.ingress_eq hcreated]
    rfl
  refine ⟨⟨?_, ?_, (if_pos hhalts).symm, nofun, nofun, ?_, hr.numbered.shareOut share signal⟩,
    fun id => ?_⟩
  · rw [hstart]
    exact hr.settings_eq
  · rw [hstart]
    exact hr.fired_eq
  · rw [hstart]
    exact hr.nextId_eq
  · have hkept : (h.start signal).subscription? id = h.subscription? id := by
      rw [hstart]
      rfl
    rw [hkept, hpending, ← hr.subscription?_eq, Feed.subscription?_shareOut]
    rfl

/-- Unless a call is a late start, the hub matches a feed after the same call. -/
theorem matches_step (hr : Rests h f) (hlate : ¬f.StartsLate r)
    (hall : ∀ id, (h.call r).2.pending.take (share id) = (h.call r).2.pending) :
    Matches share (h.call r).2 (f.step r).2 := by
  obtain ⟨-, hstands, hpending⟩ := hr.call_stands hlate
  refine ⟨hstands, fun id => ?_⟩
  rw [hr.subscription?_step id, hall id, hpending]

/-- A dispatcher that is about to end its work after a call finds nothing to hand out, unless the
call is a late start. -/
theorem pending_eq_nil_of_halts (hr : Rests h f) (hlate : ¬f.StartsLate r)
    (hhalts : (h.call r).2.Halts) : (h.call r).2.pending = [] := by
  obtain ⟨-, hstands, hpending⟩ := hr.call_stands hlate
  by_contra hwaiting
  rw [hpending] at hwaiting
  have hstopped := hstands.state_eq
  rw [if_pos hhalts, Feed.state_step_of_sends hwaiting] at hstopped
  cases hstopped

/-- One call, and any schedule of the moves after it in which no event is lost. -/
theorem call (hr : Rests h f) (r : FeedRequest ε) (hsettles : (h.call r).2.Settles h') :
    ∃ share, (h.call r).1 = (f.stepSharing share r).1 ∧ Rests h' (f.stepSharing share r).2 := by
  have hload := hr.loaded r
  obtain ⟨share, hsettled, hall⟩ := hload.settled hsettles
  refine ⟨share, ?_⟩
  by_cases hlate : f.StartsLate r
  · obtain ⟨hcreated, signal, rfl, hfired⟩ := hlate
    rw [Feed.stepSharing_of_late hcreated hfired]
    exact ⟨rfl, hsettled.rests hload.sound (hr.matches_shareOut hcreated hfired share)⟩
  · rw [Feed.stepSharing_of_not_late hlate]
    refine ⟨(hr.call_stands hlate).1,
      hsettled.rests hload.sound (hr.matches_step hlate fun id => ?_)⟩
    by_cases hhalts : (h.call r).2.Halts
    · rw [hr.pending_eq_nil_of_halts hlate hhalts, List.take_nil]
    · rw [hall hhalts id, List.take_length]

/-- One call, and a schedule of the moves after it that loses no event and, should the call be a
late start, hands out the first `n` events of the queue. -/
theorem exists_settles (hr : Rests h f) (r : FeedRequest ε) (n : Nat) :
    ∃ h', (h.call r).2.Settles h' ∧ (h.call r).1 = (f.stepSharing (fun _ => n) r).1 ∧
      Rests h' (f.stepSharing (fun _ => n) r).2 := by
  by_cases hlate : f.StartsLate r
  · obtain ⟨hcreated, signal, rfl, hfired⟩ := hlate
    have hm := hr.matches_shareOut hcreated hfired fun _ => n
    have hload := hr.loaded (.start signal)
    have hhalts : (h.start signal).Halts := by
      by_contra hgoes
      have hstopped : FeedState.stopped = (h.start signal).state := hm.state_eq.trans (if_neg hgoes)
      rw [Hub.start, if_pos (hr.state_eq'.symm.trans hcreated)] at hstopped
      cases hstopped
    obtain ⟨h', hsettles, hsettled⟩ := hload.exists_settled_of_halts hhalts n
    refine ⟨h', hsettles, ?_⟩
    rw [Feed.stepSharing_of_late hcreated hfired]
    exact ⟨rfl, hsettled.rests hload.sound hm⟩
  · obtain ⟨share, hanswer, hr'⟩ := hr.call r (settles_settle _)
    rw [Feed.stepSharing_of_not_late hlate] at hanswer hr' ⊢
    exact ⟨_, settles_settle _, hanswer, hr'⟩

theorem settings_call (h : Hub ε) (r : FeedRequest ε) : (h.call r).2.settings = h.settings := by
  have haccept (refusal : FeedError) (e : ε) : (h.accept refusal e).2.settings = h.settings := by
    obtain ⟨ingress, heq⟩ := exists_snd_accept_eq h refusal e
    rw [heq]
  cases r with
  | publish e | tryPublish e => exact haccept _ e
  | start signal =>
    change (h.start signal).settings = _
    rw [Hub.start]
    split <;> rfl
  | close =>
    change h.close.settings = _
    rw [Hub.close]
    split <;> rfl
  | fire signal | subscribe signal capacity | dropSubscription id => rfl
  | receive id n =>
    change (h.receive id n).2.settings = _
    rw [snd_receive]
    split <;> rfl

/-- Where the relay queues are as long as the ingress queue, every schedule loses no event, unless a
relay gives up. -/
theorem settles_of_room (hr : Rests h f) (r : FeedRequest ε)
    (hroom : h.settings.ingressCapacity.toNat ≤ h.settings.relayCapacity.toNat)
    (hmoves : ReflTransGen Proceeds (h.call r).2 h') (hrest : h'.AtRest) :
    (h.call r).2.Settles h' := by
  rw [← settings_call h r] at hroom
  exact ⟨(hr.loaded r).carries_of_room hroom hmoves, hrest⟩

/-- Both standard settings have such relay queues. -/
example : ∀ c ∈ [{}, FeedSettings.lowLatency], c.ingressCapacity.toNat ≤ c.relayCapacity.toNat := by
  decide

/-! ### Registration -/

/-- At rest, those are registered whose subscription is attached. -/
theorem mem_registered_iff (hr : Rests h f) (id : SubscriptionId) :
    id ∈ h.registered ↔ ∃ s, f.subscription? id = some s ∧ s.attached = true := by
  constructor
  · intro hmem
    have hopen : h.state ≠ .stopped := fun hstopped => by
      rw [hr.sound.registered_eq_nil hstopped] at hmem
      cases hmem
    obtain ⟨l, hl, hworking⟩ := (hr.sound.mem_registered_iff hopen id).1 hmem
    have hgoes := hr.atRest.not_ended (List.mem_of_getElem? hl) hworking
    have hkept : ¬l.abandoned = true := fun habandoned => hgoes (.inr (.inl habandoned))
    refine ⟨⟨id, l.stop, l.output.capacity, l.output.items, l.working⟩, ?_, hworking⟩
    rw [hr.subscription?_eq, subscription?, hl, Option.bind_some, if_neg hkept]
  · rintro ⟨s, hfound, hattached⟩
    rw [hr.subscription?_eq] at hfound
    obtain ⟨l, hl, -, rfl⟩ := subscription?_eq_some hfound
    have hgoes := hr.atRest.not_ended (List.mem_of_getElem? hl) hattached
    have hopen : h.state ≠ .stopped := fun hstopped => hgoes (.inr (.inr hstopped))
    exact (hr.sound.mem_registered_iff hopen id).2 ⟨l, hl, hattached⟩

end Rests

/-! ### At the beginning -/

theorem atRest_make {c : FeedSettings} (hmake : make c = .ok h) : h.AtRest := by
  obtain ⟨hvalid, rfl⟩ := make_eq_ok hmake
  intro m
  cases m with
  | halt =>
    rw [perform?, if_neg]
    rintro ⟨signal, hsignal, -⟩
    cases hsignal
  | _ => rfl

theorem rests_make {c : FeedSettings} {f₀ : Feed ε} (hhub : make c = .ok h)
    (hfeed : Feed.make c = .ok f₀) : Rests h f₀ := by
  have hs := sound_make hhub
  have hrest := atRest_make hhub
  obtain ⟨hvalid, rfl⟩ := make_eq_ok hhub
  obtain rfl := Feed.make_eq_ok hfeed
  exact ⟨⟨rfl, rfl, (if_neg hrest.not_halts).symm, nofun, fun _ => rfl, rfl, nofun⟩, hs, hrest,
    fun _ => rfl⟩

end Hub

end ClaimGrid
