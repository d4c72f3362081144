import Mathlib.Logic.Relation
import ClaimGrid.Feed.Hub
import ClaimGrid.Proofs.Feed.Lanes

/-!
# The moves of a hub

What the dispatcher and the relays can do, said once for each kind of move, and what stays true
whatever is called and whatever moves are made: as long as the hub is open, those are registered
whose relay is at work, and a relay ends its work for a reason.

## Main definitions

* `Hub.Loses`, `Hub.Carries`: a move in which an event is lost, and a move in which none is.
* `Hub.Proceeds`: a move in which no relay gives up.
* `Hub.AtRest`, `Hub.Settles`: nobody can make a move, and how a hub gets there.
* `Hub.Performs`: what a move does.
* `Hub.Sound`: who is registered, and who is at work.

## Main results

* `Hub.perform?_eq_some_iff`: a move does what it is said to do.
* `Hub.Sound.of_performs`, `Hub.Sound.call`: what stays true under moves and calls.
* `Hub.AtRest.due_eq_nil`, `Hub.AtRest.not_ended`, `Hub.AtRest.not_halts`,
  `Hub.AtRest.ingress_eq_nil`: what a hub at rest looks like.
-/

namespace ClaimGrid.Hub

open Relation

variable {ε : Type}

/-- An event is lost: a relay queue is full when the dispatcher comes, or a relay gives up. -/
def Loses (h : Hub ε) : Move → Prop
  | .dispatch => ∃ id l, id ∈ h.registered ∧ h.lanes[id]? = some l ∧ l.working = true ∧
      l.relay.isFull = true
  | .expire _ => True
  | _ => False

/-- The dispatcher or a relay makes a move in which no event is lost. -/
def Carries (h h' : Hub ε) : Prop := ∃ m, ¬h.Loses m ∧ h.perform? m = some h'

/-- The dispatcher or a relay makes a move in which no relay gives up. -/
def Proceeds (h h' : Hub ε) : Prop := ∃ m, (∀ id, m ≠ .expire id) ∧ h.perform? m = some h'

/-- Nobody can make a move. -/
def AtRest (h : Hub ε) : Prop := ∀ m, h.perform? m = none

/-- A hub comes to rest, and no event is lost before it does. -/
def Settles (h h' : Hub ε) : Prop := ReflTransGen Carries h h' ∧ h'.AtRest

variable {h h' : Hub ε} {m : Move} {id id' : SubscriptionId} {l l' : Lane ε}

/-- A hub just made is empty. -/
theorem make_eq_ok {c : FeedSettings} (hmake : make c = .ok h) :
    ∃ hvalid : c.validate = .ok (),
      h = { settings := c, valid := hvalid, state := .created, dispatcher := none, fired := [],
            ingress := .empty c.ingressCapacity.toNat (FeedSettings.ingressCapacity_pos hvalid),
            registered := [], lanes := [] } := by
  rw [make] at hmake
  split at hmake
  · cases hmake
  · exact ⟨‹_›, (Except.ok.inj hmake).symm⟩

/-! ### What a move does -/

/-- What a move does, and when it can be made. -/
inductive Performs (h : Hub ε) : Move → Hub ε → Prop
  | dispatch (e : ε) (ingress : BoundedQueue ε) (hworking : h.dispatcher.isSome = true)
      (hreceive : h.ingress.tryReceive? = some (e, ingress)) :
      Performs h .dispatch { h with
        ingress := ingress
        lanes := h.lanes.mapIdx fun id l => if id ∈ h.registered then l.enter e else l }
  | halt (hhalts : h.Halts) : Performs h .halt { h with dispatcher := none }.close
  | pass (id : SubscriptionId) (l l' : Lane ε) (hl : h.lanes[id]? = some l)
      (hpass : l.pass? = some l') :
      Performs h (.pass id) { h with lanes := h.lanes.set id l' }
  | sample (id : SubscriptionId) (l l' : Lane ε) (hl : h.lanes[id]? = some l)
      (hsample : l.sample? = some l') :
      Performs h (.sample id) { h with lanes := h.lanes.set id l' }
  | expire (id : SubscriptionId) (l l' : Lane ε) (hl : h.lanes[id]? = some l)
      (hexpire : l.expire? = some l') :
      Performs h (.expire id) { h with lanes := h.lanes.set id l' }
  | quit (id : SubscriptionId) (l : Lane ε) (hl : h.lanes[id]? = some l)
      (hworking : l.working = true) (hended : h.Ended l) :
      Performs h (.quit id) { h with
        lanes := h.lanes.set id l.quit
        registered := h.registered.filter (· ≠ id) }

theorem onLane?_eq_some_iff {action : Lane ε → Option (Lane ε)} :
    h.onLane? id action = some h' ↔ ∃ l l', h.lanes[id]? = some l ∧ action l = some l' ∧
      h' = { h with lanes := h.lanes.set id l' } := by
  simp only [onLane?, Option.map_eq_some_iff, Option.bind_eq_some_iff]
  constructor
  · rintro ⟨l', ⟨l, hl, hl'⟩, rfl⟩
    exact ⟨l, l', hl, hl', rfl⟩
  · rintro ⟨l, l', hl, hl', rfl⟩
    exact ⟨l', ⟨l, hl, hl'⟩, rfl⟩

/-- What cannot be done on a lane cannot be done in the hub. -/
theorem onLane?_eq_none_iff {action : Lane ε → Option (Lane ε)} (hl : h.lanes[id]? = some l) :
    h.onLane? id action = none ↔ action l = none := by
  rw [onLane?, hl, Option.bind_some, Option.map_eq_none_iff]

theorem performs_of_perform? (hm : h.perform? m = some h') : h.Performs m h' := by
  cases m with
  | dispatch =>
    rw [perform?] at hm
    split at hm
    · obtain ⟨⟨e, ingress⟩, hreceive, rfl⟩ := Option.map_eq_some_iff.1 hm
      exact .dispatch e ingress ‹_› hreceive
    · cases hm
  | halt =>
    obtain ⟨hhalts, rfl⟩ := Option.ite_some_none_eq_some.1 hm
    exact .halt hhalts
  | pass id =>
    obtain ⟨l, l', hl, hpass, rfl⟩ := onLane?_eq_some_iff.1 hm
    exact .pass id l l' hl hpass
  | sample id =>
    obtain ⟨l, l', hl, hsample, rfl⟩ := onLane?_eq_some_iff.1 hm
    exact .sample id l l' hl hsample
  | expire id =>
    obtain ⟨l, l', hl, hexpire, rfl⟩ := onLane?_eq_some_iff.1 hm
    exact .expire id l l' hl hexpire
  | quit id =>
    obtain ⟨h₁, hlane, rfl⟩ := Option.map_eq_some_iff.1 hm
    obtain ⟨l, l', hl, hquit, rfl⟩ := onLane?_eq_some_iff.1 hlane
    obtain ⟨hquits, rfl⟩ := Option.ite_some_none_eq_some.1 hquit
    exact .quit id l hl hquits.1 hquits.2

theorem perform?_of_performs (hm : h.Performs m h') : h.perform? m = some h' := by
  cases hm with
  | dispatch e ingress hworking hreceive =>
    rw [perform?, if_pos hworking, hreceive, Option.map_some]
  | halt hhalts => exact if_pos hhalts
  | pass id l l' hl hpass => exact onLane?_eq_some_iff.2 ⟨l, l', hl, hpass, rfl⟩
  | sample id l l' hl hsample => exact onLane?_eq_some_iff.2 ⟨l, l', hl, hsample, rfl⟩
  | expire id l l' hl hexpire => exact onLane?_eq_some_iff.2 ⟨l, l', hl, hexpire, rfl⟩
  | quit id l hl hworking hended =>
    have hlane : (h.onLane? id fun l => if l.working ∧ h.Ended l then some l.quit else none) =
        some { h with lanes := h.lanes.set id l.quit } :=
      onLane?_eq_some_iff.2 ⟨l, l.quit, hl, if_pos ⟨hworking, hended⟩, rfl⟩
    rw [perform?, hlane, Option.map_some]

/-- A move does what it is said to do, and can be made when it is said to be possible. -/
theorem perform?_eq_some_iff : h.perform? m = some h' ↔ h.Performs m h' :=
  ⟨performs_of_perform?, perform?_of_performs⟩

theorem close_eq (h : Hub ε) (hstopped : h.state = .stopped → h.registered = []) :
    h.close = { h with state := .stopped, registered := [] } := by
  rw [close]
  split
  · rename_i hstate
    rw [← hstopped hstate, ← hstate]
  · rfl

theorem subscription?_eq_some {s : Subscription ε} (hfound : h.subscription? id = some s) :
    ∃ l, h.lanes[id]? = some l ∧ l.abandoned = false ∧
      s = ⟨id, l.stop, l.output.capacity, l.output.items, l.working⟩ := by
  obtain ⟨l, hl, hs⟩ := Option.bind_eq_some_iff.1 hfound
  split at hs
  · cases hs
  · exact ⟨l, hl, Bool.eq_false_iff.2 ‹_›, (Option.some.inj hs).symm⟩

/-! ### Who is at work -/

/-- The relay of a subscription is at work. -/
def Works (h : Hub ε) (id : SubscriptionId) : Prop := ∃ l, h.lanes[id]? = some l ∧ l.working = true

/-- What stays true whatever is called and whatever moves are made. -/
structure Sound (h : Hub ε) : Prop where
  ingress_capacity : h.ingress.capacity = h.settings.ingressCapacity.toNat
  relay_capacity : ∀ l ∈ h.lanes, l.relay.capacity = h.settings.relayCapacity.toNat
  /-- As long as the hub is open, those are registered whose relay is at work. -/
  mem_registered_iff : h.state ≠ .stopped → ∀ id, id ∈ h.registered ↔ h.Works id
  registered_eq_nil : h.state = .stopped → h.registered = []
  /-- A relay ends its work for a reason. -/
  ended : ∀ l ∈ h.lanes, l.working = false → h.Ended l
  dispatcher_eq_none : h.state = .created → h.dispatcher = none
  dispatcher_isSome : h.state = .running → h.dispatcher.isSome = true

theorem sound_make {c : FeedSettings} (hmake : make c = .ok h) : h.Sound := by
  obtain ⟨hvalid, rfl⟩ := make_eq_ok hmake
  refine ⟨rfl, nofun, fun _ id => ⟨nofun, ?_⟩, fun _ => rfl, nofun, fun _ => rfl, nofun⟩
  rintro ⟨l, hl, -⟩
  cases hl

theorem getElem?_set_of_getElem? (hl : h.lanes[id]? = some l) (l' : Lane ε)
    (id' : SubscriptionId) :
    (h.lanes.set id l')[id']? = if id = id' then some l' else h.lanes[id']? := by
  rw [List.getElem?_set, if_pos (List.getElem?_eq_some_iff.1 hl).1]

/-- What is done on one lane leaves its relay at work. -/
theorem works_set_iff (hl : h.lanes[id]? = some l) (hworking : l.working = true)
    (hworking' : l'.working = true) :
    Works { h with lanes := h.lanes.set id l' } id' ↔ h.Works id' := by
  simp only [Works]
  rw [getElem?_set_of_getElem? hl]
  by_cases hid : id = id'
  · subst hid
    rw [if_pos rfl, hl]
    simp [hworking, hworking']
  · rw [if_neg hid]

namespace Sound

/-- What is done on one lane while its relay is at work. -/
theorem set (hs : h.Sound) (hl : h.lanes[id]? = some l) (hworking : l.working = true)
    (hworking' : l'.working = true) (hcapacity : l'.relay.capacity = l.relay.capacity) :
    Sound { h with lanes := h.lanes.set id l' } := by
  refine ⟨hs.ingress_capacity, fun l₁ hl₁ => ?_, fun hstate id' => ?_, hs.registered_eq_nil,
    fun l₁ hl₁ hidle => ?_, hs.dispatcher_eq_none, hs.dispatcher_isSome⟩
  · rcases List.mem_or_eq_of_mem_set hl₁ with hmem | rfl
    · exact hs.relay_capacity l₁ hmem
    · exact hcapacity.trans (hs.relay_capacity l (List.mem_of_getElem? hl))
  · exact (hs.mem_registered_iff hstate id').trans (works_set_iff hl hworking hworking').symm
  · rcases List.mem_or_eq_of_mem_set hl₁ with hmem | rfl
    · exact hs.ended l₁ hmem hidle
    · rw [hworking'] at hidle
      cases hidle

theorem dispatch (hs : h.Sound) {e : ε} {ingress : BoundedQueue ε}
    (hreceive : h.ingress.tryReceive? = some (e, ingress)) :
    Sound { h with
      ingress := ingress
      lanes := h.lanes.mapIdx fun id l => if id ∈ h.registered then l.enter e else l } := by
  have hworking (id : SubscriptionId) (l : Lane ε) :
      (if id ∈ h.registered then l.enter e else l).working = l.working := by
    split
    · exact l.working_enter e
    · rfl
  refine ⟨?_, fun l' hl' => ?_, fun hstate id => (hs.mem_registered_iff hstate id).trans ?_,
    hs.registered_eq_nil, fun l' hl' hidle => ?_, hs.dispatcher_eq_none, hs.dispatcher_isSome⟩
  · exact (BoundedQueue.tryReceive?_eq_some hreceive).1.trans hs.ingress_capacity
  · obtain ⟨id, hid, rfl⟩ := List.mem_mapIdx.1 hl'
    have hbefore := hs.relay_capacity _ (List.getElem_mem hid)
    obtain ⟨relay, hcapacity, henter⟩ := (h.lanes[id]).exists_enter_eq e
    split
    · rw [henter]
      exact hcapacity.trans hbefore
    · exact hbefore
  · simp only [Works, List.getElem?_mapIdx, Option.map_eq_some_iff]
    constructor
    · rintro ⟨l, hl, htrue⟩
      exact ⟨_, ⟨l, hl, rfl⟩, (hworking id l).trans htrue⟩
    · rintro ⟨_, ⟨l, hl, rfl⟩, htrue⟩
      exact ⟨l, hl, (hworking id l).symm.trans htrue⟩
  · obtain ⟨id, hid, rfl⟩ := List.mem_mapIdx.1 hl'
    rw [hworking] at hidle
    have hended := hs.ended _ (List.getElem_mem hid) hidle
    obtain ⟨relay, -, henter⟩ := (h.lanes[id]).exists_enter_eq e
    split
    · rw [henter]
      exact hended
    · exact hended

theorem close (hs : h.Sound) (dispatcher : Option SignalId) :
    Sound { h with dispatcher := dispatcher, state := .stopped, registered := [] } :=
  ⟨hs.ingress_capacity, hs.relay_capacity, fun hstate => absurd rfl hstate, fun _ => rfl,
    fun _ _ _ => .inr (.inr rfl), nofun, nofun⟩

theorem quit (hs : h.Sound) (hl : h.lanes[id]? = some l) (hended : h.Ended l) :
    Sound { h with
      lanes := h.lanes.set id l.quit
      registered := h.registered.filter (· ≠ id) } := by
  refine ⟨hs.ingress_capacity, fun l₁ hl₁ => ?_, fun hstate id' => ?_, fun hstate => ?_,
    fun l₁ hl₁ hidle => ?_, hs.dispatcher_eq_none, hs.dispatcher_isSome⟩
  · rcases List.mem_or_eq_of_mem_set hl₁ with hmem | rfl
    · exact hs.relay_capacity l₁ hmem
    · exact hs.relay_capacity l (List.mem_of_getElem? hl)
  · rw [List.mem_filter, hs.mem_registered_iff hstate, Works, Works, getElem?_set_of_getElem? hl]
    by_cases hid : id = id'
    · simp [hid, Lane.quit]
    · simp [hid, Ne.symm hid]
  · rw [hs.registered_eq_nil hstate, List.filter_nil]
  · rcases List.mem_or_eq_of_mem_set hl₁ with hmem | rfl
    · exact hs.ended l₁ hmem hidle
    · exact hended

/-- Whatever move is made, those who are registered are at work. -/
theorem of_performs (hs : h.Sound) (hm : h.Performs m h') : h'.Sound := by
  cases hm with
  | dispatch e ingress hworking hreceive => exact hs.dispatch hreceive
  | halt hhalts =>
    have hclose := close_eq { h with dispatcher := none } hs.registered_eq_nil
    rw [hclose]
    exact hs.close none
  | pass id l l' hl hpass =>
    obtain ⟨hworking, -, e, relay, hreceive, hl'⟩ := Lane.pass?_eq_some hpass
    have hcapacity := (BoundedQueue.tryReceive?_eq_some hreceive).1
    obtain ⟨output, -, rfl⟩ | ⟨-, rfl⟩ := hl'
    · exact hs.set hl hworking hworking hcapacity
    · exact hs.set hl hworking hworking hcapacity
  | sample id l l' hl hsample =>
    obtain ⟨hworking, e, output, -, -, -, rfl⟩ := Lane.sample?_eq_some hsample
    exact hs.set hl hworking hworking rfl
  | expire id l l' hl hexpire =>
    obtain ⟨hworking, e, -, rfl⟩ := Lane.expire?_eq_some hexpire
    exact hs.set hl hworking hworking rfl
  | quit id l hl hworking hended => exact hs.quit hl hended

theorem of_carries (hs : h.Sound) (hmoves : ReflTransGen Carries h h') : h'.Sound := by
  induction hmoves with
  | refl => exact hs
  | tail _ hm ih =>
    obtain ⟨m, -, hm⟩ := hm
    exact ih.of_performs (performs_of_perform? hm)

/-! ### Calls -/

theorem accept (hs : h.Sound) (refusal : FeedError) (e : ε) : (h.accept refusal e).2.Sound := by
  rw [Hub.accept]
  split
  · exact hs
  · split
    · rename_i ingress hsend
      exact { hs with
        ingress_capacity := (BoundedQueue.trySend?_eq_some hsend).1.trans hs.ingress_capacity }
    · exact hs

theorem start (hs : h.Sound) (signal : SignalId) : (h.start signal).Sound := by
  rw [Hub.start]
  split
  · rename_i hcreated
    have hopen : h.state ≠ .stopped := by
      rw [hcreated]
      nofun
    refine ⟨hs.ingress_capacity, hs.relay_capacity, fun _ => hs.mem_registered_iff hopen, nofun,
      fun l hl hidle => ?_, nofun, fun _ => rfl⟩
    rcases hs.ended l hl hidle with hfired | habandoned | hstopped
    · exact .inl hfired
    · exact .inr (.inl habandoned)
    · exact absurd hstopped hopen
  · exact hs

theorem fire (hs : h.Sound) (signal : SignalId) : (h.fire signal).Sound :=
  ⟨hs.ingress_capacity, hs.relay_capacity, hs.mem_registered_iff, hs.registered_eq_nil,
    fun l hl hidle => (hs.ended l hl hidle).imp_left (List.mem_cons_of_mem _),
    hs.dispatcher_eq_none, hs.dispatcher_isSome⟩

theorem subscribe (hs : h.Sound) (signal : SignalId) (capacity : Nat) :
    (h.subscribe signal capacity).2.Sound := by
  refine ⟨hs.ingress_capacity, fun l hl => ?_, fun hopen id => ?_, fun hstopped => ?_,
    fun l hl hidle => ?_, hs.dispatcher_eq_none, hs.dispatcher_isSome⟩
  · rcases List.mem_append.1 hl with hold | hnew
    · exact hs.relay_capacity l hold
    · rw [List.mem_singleton.1 hnew]
      rfl
  · change h.state ≠ .stopped at hopen
    change id ∈ (if h.state = .stopped then h.registered else h.registered ++ [h.lanes.length]) ↔ _
    rw [if_neg hopen, List.mem_append, List.mem_singleton, hs.mem_registered_iff hopen, Works,
      Works]
    -- a name is in use, or is that of the new lane, or is none at all
    change _ ↔ ∃ l, (h.lanes ++ [_])[id]? = some l ∧ _
    rcases Nat.lt_trichotomy id h.lanes.length with hlt | rfl | hgt
    · rw [List.getElem?_append_left hlt, or_iff_left (Nat.ne_of_lt hlt)]
    · simp [hopen]
    · rw [List.getElem?_eq_none (Nat.le_of_lt hgt), List.getElem?_eq_none]
      · simp [Nat.ne_of_gt hgt]
      · rw [List.length_append, List.length_singleton]
        exact hgt
  · change h.state = .stopped at hstopped
    change (if h.state = .stopped then h.registered else _) = []
    rw [if_pos hstopped, hs.registered_eq_nil hstopped]
  · rcases List.mem_append.1 hl with hold | hnew
    · exact hs.ended l hold hidle
    · rw [List.mem_singleton.1 hnew, decide_eq_false_iff_not, not_not] at hidle
      exact .inr (.inr hidle)

/-- What a call changes on one lane, while its relay goes on as before. -/
theorem modify (hs : h.Sound) (id : SubscriptionId) {f : Lane ε → Lane ε}
    (hworking : ∀ l, (f l).working = l.working) (hrelay : ∀ l, (f l).relay = l.relay)
    (hended : ∀ l, h.Ended l → h.Ended (f l)) :
    Sound { h with lanes := h.lanes.modify id f } := by
  have hat (id' : SubscriptionId) : Works { h with lanes := h.lanes.modify id f } id' ↔
      h.Works id' := by
    simp only [Works, List.getElem?_modify, Option.map_eq_map, Option.map_eq_some_iff]
    constructor
    · rintro ⟨_, ⟨l, hl, rfl⟩, htrue⟩
      refine ⟨l, hl, ?_⟩
      split at htrue
      · exact (hworking l).symm.trans htrue
      · exact htrue
    · rintro ⟨l, hl, htrue⟩
      refine ⟨_, ⟨l, hl, rfl⟩, ?_⟩
      split
      · exact (hworking l).trans htrue
      · exact htrue
  have hfrom (l' : Lane ε) (hl' : l' ∈ h.lanes.modify id f) : ∃ l ∈ h.lanes, l' = f l ∨ l' = l := by
    obtain ⟨id', hid'⟩ := List.mem_iff_getElem?.1 hl'
    rw [List.getElem?_modify, Option.map_eq_map, Option.map_eq_some_iff] at hid'
    obtain ⟨l, hl, rfl⟩ := hid'
    refine ⟨l, List.mem_of_getElem? hl, ?_⟩
    split
    · exact .inl rfl
    · exact .inr rfl
  refine ⟨hs.ingress_capacity, fun l' hl' => ?_, fun hopen id' =>
    (hs.mem_registered_iff hopen id').trans (hat id').symm, hs.registered_eq_nil,
    fun l' hl' hidle => ?_, hs.dispatcher_eq_none, hs.dispatcher_isSome⟩
  · obtain ⟨l, hl, rfl | rfl⟩ := hfrom l' hl'
    · rw [hrelay]
      exact hs.relay_capacity l hl
    · exact hs.relay_capacity _ hl
  · obtain ⟨l, hl, rfl | rfl⟩ := hfrom l' hl'
    · exact hended l (hs.ended l hl ((hworking l).symm.trans hidle))
    · exact hs.ended _ hl hidle

theorem take (hs : h.Sound) (id : SubscriptionId) (n : Nat) : (h.take id n).Sound :=
  hs.modify id (fun _ => rfl) (fun _ => rfl) fun _ hended => hended

theorem dropSubscription (hs : h.Sound) (id : SubscriptionId) : (h.dropSubscription id).Sound :=
  hs.modify id (fun _ => rfl) (fun _ => rfl) fun _ _ => .inr (.inl rfl)

theorem receive (hs : h.Sound) (id : SubscriptionId) (n : Nat) : (h.receive id n).2.Sound := by
  rw [Hub.receive]
  split
  · exact hs
  · exact hs.take id n

/-- Whatever is called, those who are registered are at work. -/
theorem call (hs : h.Sound) (r : FeedRequest ε) : (h.call r).2.Sound := by
  cases r with
  | publish e | tryPublish e => exact hs.accept _ e
  | start signal => exact hs.start signal
  | close =>
    change h.close.Sound
    rw [close_eq h hs.registered_eq_nil]
    exact hs.close h.dispatcher
  | fire signal => exact hs.fire signal
  | subscribe signal capacity => exact hs.subscribe signal capacity
  | dropSubscription id => exact hs.dropSubscription id
  | receive id n => exact hs.receive id n

end Sound

/-! ### At rest -/

namespace AtRest

/-- No event is on a lane. -/
theorem due_eq_nil (hrest : h.AtRest) (hl : l ∈ h.lanes) (hworking : l.working = true) :
    l.due = [] := by
  obtain ⟨id, hid⟩ := List.mem_iff_getElem?.1 hl
  refine Lane.due_eq_nil_of_eq_none hworking ?_ ?_
  · exact (onLane?_eq_none_iff hid).1 (hrest (.pass id))
  · exact (onLane?_eq_none_iff hid).1 (hrest (.sample id))

/-- No relay is about to end its work. -/
theorem not_ended (hrest : h.AtRest) (hl : l ∈ h.lanes) (hworking : l.working = true) :
    ¬h.Ended l := by
  intro hended
  obtain ⟨id, hid⟩ := List.mem_iff_getElem?.1 hl
  have hmove := perform?_of_performs (.quit id l hid hworking hended)
  rw [hrest] at hmove
  cases hmove

/-- The dispatcher is not about to end its work. -/
theorem not_halts (hrest : h.AtRest) : ¬h.Halts := by
  intro hhalts
  have hmove := perform?_of_performs (.halt hhalts)
  rw [hrest] at hmove
  cases hmove

/-- No event waits for the dispatcher. -/
theorem ingress_eq_nil (hrest : h.AtRest) (hworking : h.dispatcher.isSome = true) :
    h.ingress.items = [] := by
  have hmove := hrest .dispatch
  rw [perform?, if_pos hworking, Option.map_eq_none_iff] at hmove
  exact BoundedQueue.tryReceive?_eq_none_iff.1 hmove

end AtRest

end ClaimGrid.Hub
