import ClaimGrid.Proofs.Feed.Settling

/-!
# Schedules

The dispatcher and the relays cannot go on for ever: each move uses up some of the work that is
there. Whoever takes the relays before the dispatcher loses no event, as the dispatcher then never
finds a relay queue full. So after every call there is a way to come to rest without a loss. Where
the relay queues are as long as the ingress queue, there is no other way, unless a relay gives up.

A dispatcher that is about to end its work all along may hand out any part of what waits before it
does.

## Main definitions

* `Hub.Passes`: some events were handed to the lanes, and have passed.

## Main results

* `Hub.work_lt_of_performs`: each move uses up work.
* `Hub.settles_settle`: `Hub.settle` comes to rest and loses nothing.
* `Hub.Loaded.carries_of_room`: where there is room for all, only a relay that gives up loses one.
* `Hub.Loaded.exists_settled_of_halts`: any part of what waits may be handed out before the end.
-/

namespace ClaimGrid

open Relation

variable {ε : Type}

/-! ### Work -/

namespace Lane

variable {l l' : Lane ε} {ls : List (Lane ε)}

/-- An event on a lane is worth two moves: it may be held back before it goes into the output. -/
theorem work_enter_le (l : Lane ε) (e : ε) : (l.enter e).work ≤ l.work + 2 := by
  cases hworking : l.working with
  | false =>
    rw [enter, hworking]
    exact Nat.le_add_right _ _
  | true =>
    cases hsend : l.relay.trySend? e with
    | none =>
      rw [enter, if_pos hworking, hsend]
      exact Nat.le_add_right _ _
    | some relay =>
      have hitems := (BoundedQueue.trySend?_eq_some hsend).2
      rw [enter, if_pos hworking, hsend, work, work, if_pos hworking]
      dsimp only
      rw [if_pos hworking, hitems, List.length_append, List.length_singleton]
      omega

theorem work_lt_of_pass? (h : l.pass? = some l') : l'.work < l.work := by
  obtain ⟨hworking, hheld, e, relay, hreceive, hl'⟩ := pass?_eq_some h
  have hitems := (BoundedQueue.tryReceive?_eq_some hreceive).2
  have hbefore : l.work = 1 + 2 * (relay.items.length + 1) := by
    rw [work, if_pos hworking, hheld, hitems]
    rfl
  rw [hbefore]
  obtain ⟨output, -, rfl⟩ | ⟨-, rfl⟩ := hl'
  · rw [work, if_pos hworking, hheld]
    dsimp only [Option.toList, List.length_nil]
    omega
  · rw [work, if_pos hworking]
    dsimp only [Option.toList, List.length_singleton]
    omega

theorem work_lt_of_sample? (h : l.sample? = some l') : l'.work < l.work := by
  obtain ⟨hworking, e, output, hheld, -, -, rfl⟩ := sample?_eq_some h
  rw [work, work, if_pos hworking, if_pos hworking, hheld]
  dsimp only [Option.toList, List.length_nil, List.length_singleton]
  omega

theorem work_lt_of_expire? (h : l.expire? = some l') : l'.work < l.work := by
  obtain ⟨hworking, e, hheld, rfl⟩ := expire?_eq_some h
  rw [work, work, if_pos hworking, if_pos hworking, hheld]
  dsimp only [Option.toList, List.length_nil, List.length_singleton]
  omega

theorem work_quit_lt (hworking : l.working = true) : l.quit.work < l.work := by
  have hafter : l.quit.work = 0 := rfl
  rw [hafter, work, if_pos hworking]
  omega

theorem totalWork_set {i : Nat} (hl : ls[i]? = some l) (l' : Lane ε) :
    totalWork (ls.set i l') + l.work = totalWork ls + l'.work := by
  induction ls generalizing i with
  | nil => cases hl
  | cons l₁ ls ih =>
    cases i with
    | zero =>
      obtain rfl := Option.some.inj hl
      rw [List.set_cons_zero, totalWork, totalWork]
      omega
    | succ i =>
      have hrest := ih (i := i) hl
      rw [List.set_cons_succ, totalWork, totalWork]
      omega

theorem totalWork_mapIdx_le {g : Nat → Lane ε → Lane ε} {n : Nat}
    (hg : ∀ i l, (g i l).work ≤ l.work + n) (ls : List (Lane ε)) :
    totalWork (ls.mapIdx g) ≤ totalWork ls + n * ls.length := by
  induction ls generalizing g with
  | nil => exact Nat.le_refl _
  | cons l ls ih =>
    have hfirst := hg 0 l
    have hrest := ih fun i => hg (i + 1)
    rw [List.mapIdx_cons, totalWork, totalWork, List.length_cons, Nat.mul_succ]
    omega

end Lane

namespace Hub

variable {h h' : Hub ε} {m : Move} {id : SubscriptionId} {l l' : Lane ε} {sent : List ε}

theorem work_set_lt (hl : h.lanes[id]? = some l) (hlt : l'.work < l.work)
    (registered : List SubscriptionId) :
    work { h with lanes := h.lanes.set id l', registered := registered } < h.work := by
  have hset := Lane.totalWork_set hl l'
  rw [work, work]
  dsimp only
  rw [List.length_set]
  omega

/-- Each move uses up work, so the dispatcher and the relays cannot go on for ever. -/
theorem work_lt_of_performs (hm : h.Performs m h') : h'.work < h.work := by
  cases hm with
  | dispatch e ingress hworking hreceive =>
    have hlanes : Lane.totalWork (h.lanes.mapIdx fun id l =>
        if id ∈ h.registered then l.enter e else l) ≤
          Lane.totalWork h.lanes + 2 * h.lanes.length := by
      refine Lane.totalWork_mapIdx_le (fun id l => ?_) h.lanes
      split
      · exact l.work_enter_le e
      · exact Nat.le_add_right _ _
    rw [work, work, if_pos hworking, (BoundedQueue.tryReceive?_eq_some hreceive).2]
    dsimp only
    rw [if_pos hworking, List.length_mapIdx, List.length_cons, Nat.succ_mul ingress.items.length]
    omega
  | halt hhalts =>
    obtain ⟨signal, hsignal, -⟩ := hhalts
    have hworking : h.dispatcher.isSome = true := Option.isSome_of_mem hsignal
    have hafter : ({ h with dispatcher := none } : Hub ε).close.work = Lane.totalWork h.lanes := by
      rw [close]
      split <;> rfl
    rw [hafter, work, if_pos hworking]
    omega
  | pass id l l' hl hpass => exact work_set_lt hl (Lane.work_lt_of_pass? hpass) h.registered
  | sample id l l' hl hsample => exact work_set_lt hl (Lane.work_lt_of_sample? hsample) h.registered
  | expire id l l' hl hexpire => exact work_set_lt hl (Lane.work_lt_of_expire? hexpire) h.registered
  | quit id l hl hworking hended => exact work_set_lt hl (Lane.work_quit_lt hworking) _

/-! ### Relays before the dispatcher -/

/-- The dispatcher loses no event as long as no event is on a lane. -/
theorem not_loses_dispatch_of_idle (hidle : ∀ l ∈ h.lanes, l.working = true → l.due = []) :
    ¬h.Loses .dispatch := by
  rintro ⟨id, l, -, hl, hworking, hfull⟩
  have hroom := Lane.isFull_relay_of_due_eq_nil (hidle l (List.mem_of_getElem? hl) hworking)
  rw [hfull] at hroom
  cases hroom

/-- The agenda comes to the dispatcher only if no relay can make a move. -/
theorem idle_of_findSome?_eq_none
    (hnone : ((List.range h.lanes.length).flatMap fun id =>
      [Move.pass id, .sample id, .quit id]).findSome? h.perform? = none) (id : SubscriptionId)
    (hlane : m ∈ [Move.pass id, .sample id, .quit id]) : h.perform? m = none := by
  by_cases hid : id < h.lanes.length
  · refine List.findSome?_eq_none_iff.1 hnone m (List.mem_flatMap.2 ⟨id, ?_, hlane⟩)
    exact List.mem_range.2 hid
  · have habsent : h.lanes[id]? = none := List.getElem?_eq_none (Nat.le_of_not_lt hid)
    have hnothing (action : Lane ε → Option (Lane ε)) : h.onLane? id action = none := by
      rw [onLane?, habsent]
      rfl
    simp only [List.mem_cons, List.not_mem_nil, or_false] at hlane
    obtain rfl | rfl | rfl := hlane
    · exact hnothing _
    · exact hnothing _
    · rw [perform?, hnothing]
      rfl

theorem due_eq_nil_of_findSome?_eq_none
    (hnone : ((List.range h.lanes.length).flatMap fun id =>
      [Move.pass id, .sample id, .quit id]).findSome? h.perform? = none) (hl : l ∈ h.lanes)
    (hworking : l.working = true) : l.due = [] := by
  obtain ⟨id, hid⟩ := List.mem_iff_getElem?.1 hl
  have hpass := idle_of_findSome?_eq_none hnone id (m := .pass id) List.mem_cons_self
  have hsample := idle_of_findSome?_eq_none hnone id (m := .sample id)
    (List.mem_cons_of_mem _ List.mem_cons_self)
  exact Lane.due_eq_nil_of_eq_none hworking ((onLane?_eq_none_iff hid).1 hpass)
    ((onLane?_eq_none_iff hid).1 hsample)

/-- The next move of the agenda loses no event. -/
theorem carries_of_next? (hnext : h.next? = some h') : h.Carries h' := by
  rw [next?, agenda, List.findSome?_append, Option.or_eq_some_iff] at hnext
  rcases hnext with hrelay | ⟨hnone, hdispatcher⟩
  · obtain ⟨m, hm, hperform⟩ := List.exists_of_findSome?_eq_some hrelay
    obtain ⟨id, -, hlane⟩ := List.mem_flatMap.1 hm
    refine ⟨m, fun hloses => ?_, hperform⟩
    simp only [List.mem_cons, List.not_mem_nil, or_false] at hlane
    obtain rfl | rfl | rfl := hlane <;> exact hloses
  · obtain ⟨m, hm, hperform⟩ := List.exists_of_findSome?_eq_some hdispatcher
    refine ⟨m, ?_, hperform⟩
    simp only [List.mem_cons, List.not_mem_nil, or_false] at hm
    obtain rfl | rfl := hm
    · exact not_false
    · exact not_loses_dispatch_of_idle fun _ hl hworking =>
        due_eq_nil_of_findSome?_eq_none hnone hl hworking

/-- A hub whose agenda is done is at rest: a relay could give up an event only if it could also make
room for it. -/
theorem atRest_of_next? (hnext : h.next? = none) : h.AtRest := by
  rw [next?, agenda, List.findSome?_append, Option.or_eq_none_iff] at hnext
  obtain ⟨hrelays, hdispatcher⟩ := hnext
  intro m
  cases m with
  | dispatch | halt => exact List.findSome?_eq_none_iff.1 hdispatcher _ (by simp)
  | pass id | sample id | quit id =>
    exact idle_of_findSome?_eq_none hrelays id (by simp)
  | expire id =>
    refine Option.eq_none_iff_forall_not_mem.2 fun h' hm => ?_
    obtain ⟨l, l', hl, hexpire, -⟩ := onLane?_eq_some_iff.1 hm
    obtain ⟨hworking, e, hheld, -⟩ := Lane.expire?_eq_some hexpire
    have hdue := due_eq_nil_of_findSome?_eq_none hrelays (List.mem_of_getElem? hl) hworking
    rw [Lane.due, hheld] at hdue
    cases hdue

theorem settles_settleWithin {n : Nat} (hwork : h.work ≤ n) : h.Settles (settleWithin n h) := by
  induction n generalizing h with
  | zero =>
    change h.Settles h
    refine ⟨.refl, atRest_of_next? ?_⟩
    refine Option.eq_none_iff_forall_not_mem.2 fun h' hnext => ?_
    obtain ⟨m, -, hm⟩ := carries_of_next? hnext
    have hlt := work_lt_of_performs (performs_of_perform? hm)
    omega
  | succ n ih =>
    rw [settleWithin]
    cases hnext : h.next? with
    | none => exact ⟨.refl, atRest_of_next? hnext⟩
    | some h' =>
      have hcarries := carries_of_next? hnext
      obtain ⟨m, -, hm⟩ := hcarries
      have hlt := work_lt_of_performs (performs_of_perform? hm)
      obtain ⟨hmoves, hrest⟩ := ih (h := h') (by omega)
      exact ⟨.head (carries_of_next? hnext) hmoves, hrest⟩

/-- Whoever follows the agenda comes to rest and loses no event. -/
theorem settles_settle (h : Hub ε) : h.Settles h.settle := settles_settleWithin (Nat.le_refl _)

/-! ### Where there is room for all -/

/-- Where the relay queues are as long as the ingress queue, the dispatcher finds none of them full
between two rests. -/
theorem Loaded.not_loses_dispatch (hload : h.Loaded) (hu : h.Underway h' sent) (hs : h'.Sound)
    (hroom : h.settings.ingressCapacity.toNat ≤ h.settings.relayCapacity.toNat)
    (hwaiting : h'.ingress.items ≠ []) : ¬h'.Loses .dispatch := by
  rintro ⟨id, l', -, hl', hworking, hfull⟩
  have hcapacity := hs.relay_capacity l' (List.mem_of_getElem? hl')
  have hid : id < h.lanes.length := hu.length_eq ▸ (List.getElem?_eq_some_iff.1 hl').1
  obtain ⟨l₁, hl₁, hconveys⟩ := hu.conveys id _ (List.getElem?_eq_getElem hid)
  obtain rfl := Option.some.inj (hl₁.symm.trans hl')
  obtain ⟨passed, rest, hsent, -, hdue, -⟩ := hconveys.passed
  have hrelay : l₁.relay.items.length ≤ sent.length := by
    rw [hsent, ← hdue hworking, Lane.due, List.length_append, List.length_append]
    omega
  have hbound := h.ingress.length_le
  rw [hload.sound.ingress_capacity, hu.ingress_eq, List.length_append] at hbound
  have hpos := List.length_pos_iff.2 hwaiting
  rw [BoundedQueue.isFull, decide_eq_true_eq, hcapacity, hu.settings_eq] at hfull
  omega

/-- There, an event is lost only if a relay gives it up. -/
theorem Loaded.carries_of_room (hload : h.Loaded)
    (hroom : h.settings.ingressCapacity.toNat ≤ h.settings.relayCapacity.toNat)
    (hmoves : ReflTransGen Proceeds h h') : ReflTransGen Carries h h' := by
  induction hmoves with
  | refl => exact .refl
  | @tail h₁ h₂ _ hm ih =>
    obtain ⟨m, hpatient, hm⟩ := hm
    refine ih.tail ⟨m, ?_, hm⟩
    cases m with
    | dispatch =>
      obtain ⟨sent, hu⟩ := hload.underway ih
      refine hload.not_loses_dispatch hu (hload.sound.of_carries ih) hroom ?_
      cases performs_of_perform? hm with
      | dispatch e ingress _ hreceive =>
        rw [(BoundedQueue.tryReceive?_eq_some hreceive).2]
        exact List.cons_ne_nil _ _
    | expire id => exact absurd rfl (hpatient id)
    | halt | pass id | sample id | quit id => exact not_false

/-! ### Part of what waits -/

/-- The dispatcher has handed the next `n` events to the lanes, as far as there were so many, and
they have passed. Everybody is at work as before. -/
structure Passes (h : Hub ε) (n : Nat) (h' : Hub ε) : Prop where
  moves : ReflTransGen Carries h h'
  dispatcher_eq : h'.dispatcher = h.dispatcher
  state_eq : h'.state = h.state
  ingress_eq : h'.ingress.items = h.ingress.items.drop n
  working_eq : h'.lanes.map Lane.working = h.lanes.map Lane.working
  idle : ∀ l ∈ h'.lanes, l.working = true → l.due = []

theorem map_working_set (hl : h.lanes[id]? = some l) (hworking : l'.working = l.working) :
    (h.lanes.set id l').map Lane.working = h.lanes.map Lane.working := by
  rw [List.map_set, hworking]
  refine List.ext_getElem? fun i => ?_
  rw [List.getElem?_set]
  split
  · rename_i hi
    subst hi
    rw [List.getElem?_map, hl, if_pos (by simpa using (List.getElem?_eq_some_iff.1 hl).1)]
    rfl
  · rfl

theorem map_working_dispatch (h : Hub ε) (e : ε) :
    (h.lanes.mapIdx fun id l => if id ∈ h.registered then l.enter e else l).map Lane.working =
      h.lanes.map Lane.working := by
  refine List.ext_getElem? fun i => ?_
  rw [List.getElem?_map, List.getElem?_mapIdx, List.getElem?_map, Option.map_map]
  refine Option.map_congr fun l _ => ?_
  rw [Function.comp_apply]
  split
  · exact l.working_enter e
  · rfl

/-- What is on the lanes may pass before anything else happens. -/
theorem exists_passes_zero (h : Hub ε) : ∃ h', h.Passes 0 h' := by
  induction hwork : h.work using Nat.strongRecOn generalizing h with
  | ind n ih =>
    subst hwork
    -- a relay that has something to do makes its move first
    have hlane {id : SubscriptionId} {l l' : Lane ε} (m : Move) (hl : h.lanes[id]? = some l)
        (hlossless : ¬h.Loses m) (hm : h.Performs m { h with lanes := h.lanes.set id l' })
        (hworking : l'.working = l.working) : ∃ h', h.Passes 0 h' := by
      obtain ⟨h', hp⟩ := ih _ (work_lt_of_performs hm) _ rfl
      exact ⟨h', .head ⟨m, hlossless, perform?_of_performs hm⟩ hp.moves, hp.dispatcher_eq,
        hp.state_eq, hp.ingress_eq, hp.working_eq.trans (map_working_set hl hworking), hp.idle⟩
    by_cases hidle : ∀ l ∈ h.lanes, l.working = true → l.due = []
    · exact ⟨h, .refl, rfl, rfl, rfl, rfl, hidle⟩
    · push Not at hidle
      obtain ⟨l, hmem, hworking, hdue⟩ := hidle
      obtain ⟨id, hl⟩ := List.mem_iff_getElem?.1 hmem
      cases hpass : l.pass? with
      | some l' =>
        obtain ⟨-, -, e, relay, -, hl'⟩ := Lane.pass?_eq_some hpass
        refine hlane (.pass id) hl not_false (.pass id l l' hl hpass) ?_
        obtain ⟨output, -, rfl⟩ | ⟨-, rfl⟩ := hl' <;> rfl
      | none =>
        cases hsample : l.sample? with
        | some l' =>
          obtain ⟨-, e, output, -, -, -, rfl⟩ := Lane.sample?_eq_some hsample
          exact hlane (.sample id) hl not_false (.sample id l _ hl hsample) rfl
        | none => exact absurd (Lane.due_eq_nil_of_eq_none hworking hpass hsample) hdue

/-- A dispatcher at work may hand out as many events as there are, and let each one pass. -/
theorem exists_passes (hidle : ∀ l ∈ h.lanes, l.working = true → l.due = [])
    (hworking : h.dispatcher.isSome = true) (n : Nat) : ∃ h', h.Passes n h' := by
  induction n with
  | zero => exact ⟨h, .refl, rfl, rfl, rfl, rfl, hidle⟩
  | succ n ih =>
    obtain ⟨h₁, hp⟩ := ih
    cases hreceive : h₁.ingress.tryReceive? with
    | none =>
      have hempty := BoundedQueue.tryReceive?_eq_none_iff.1 hreceive
      refine ⟨h₁, { hp with ingress_eq := ?_ }⟩
      rw [hempty, ← List.drop_drop, ← hp.ingress_eq, hempty, List.drop_nil]
    | some pair =>
      obtain ⟨e, ingress⟩ := pair
      have hm := Performs.dispatch e ingress (hp.dispatcher_eq ▸ hworking) hreceive
      obtain ⟨h₂, hdrained⟩ := exists_passes_zero { h₁ with
        ingress := ingress
        lanes := h₁.lanes.mapIdx fun id l => if id ∈ h₁.registered then l.enter e else l }
      have hcarries : h₁.Carries _ :=
        ⟨.dispatch, not_loses_dispatch_of_idle hp.idle, perform?_of_performs hm⟩
      refine ⟨h₂, (hp.moves.tail hcarries).trans hdrained.moves,
        hdrained.dispatcher_eq.trans hp.dispatcher_eq, hdrained.state_eq.trans hp.state_eq, ?_,
        hdrained.working_eq.trans ((h₁.map_working_dispatch e).trans hp.working_eq),
        hdrained.idle⟩
      have hrest : ingress.items = h₁.ingress.items.drop 1 := by
        rw [(BoundedQueue.tryReceive?_eq_some hreceive).2]
        rfl
      rw [hdrained.ingress_eq, List.drop_zero, hrest, hp.ingress_eq, List.drop_drop]

namespace Passes

variable {n : Nat}

theorem underway (hp : h.Passes n h') (hload : h.Loaded) :
    h.Underway h' (h.ingress.items.take n) := by
  obtain ⟨sent, hu⟩ := hload.underway hp.moves
  have hsplit := (List.take_append_drop n h.ingress.items).trans hu.ingress_eq
  rw [hp.ingress_eq] at hsplit
  exact List.append_cancel_right hsplit ▸ hu

/-- Those events have arrived at every output that events reach. -/
theorem subscription?_eq (hp : h.Passes n h') (hload : h.Loaded) (id : SubscriptionId) :
    h'.subscription? id =
      (h.subscription? id).map fun s => (h.ingress.items.take n).foldl .deliver s := by
  have hu := hp.underway hload
  cases hl : h.lanes[id]? with
  | none =>
    have hnone : h'.lanes[id]? = none := by
      rw [List.getElem?_eq_none_iff] at hl ⊢
      rw [hu.length_eq]
      exact hl
    rw [subscription?, subscription?, hl, hnone]
    rfl
  | some l =>
    obtain ⟨l', hl', hconveys⟩ := hu.conveys id l hl
    obtain ⟨passed, rest, hsent, hitems, hdue, hidle⟩ := hconveys.passed
    have hworking : l'.working = l.working := by
      have hsame := congrArg (·[id]?) hp.working_eq
      simpa only [List.getElem?_map, hl, hl', Option.map_some, Option.some.injEq] using hsame
    have harrived := hconveys.foldl_deliver_eq hitems hidle id l.working
    rw [subscription?, subscription?, hl, hl', Option.bind_some, Option.bind_some,
      hconveys.abandoned_eq]
    cases hkept : l.abandoned with
    | true => rfl
    | false =>
      have hsame (s : Subscription ε) :
          { passed.foldl .deliver s with attached := s.attached } = passed.foldl .deliver s := by
        rw [← s.attached_foldl_deliver passed]
      rw [if_neg Bool.false_ne_true, if_neg Bool.false_ne_true, Option.map_some, hconveys.stop_eq,
        hworking]
      refine congrArg some (harrived.trans ((hsame ⟨id, l.stop, _, _, l.working⟩).trans ?_))
      rw [hsent]
      cases hworks : l.working with
      | true =>
        rw [← hdue (hworking.trans hworks),
          hp.idle l' (List.mem_of_getElem? hl') (hworking.trans hworks), List.append_nil]
      | false =>
        rw [Subscription.foldl_deliver_of_detached rfl, Subscription.foldl_deliver_of_detached rfl]

end Passes

/-- The dispatcher ends its work and closes the hub. -/
theorem exists_performs_halt (hs : h.Sound) (hhalts : h.Halts) :
    ∃ h', h.Performs .halt h' ∧ h'.settings = h.settings ∧ h'.fired = h.fired ∧
      h'.state = .stopped ∧ h'.dispatcher = none ∧ h'.lanes = h.lanes := by
  refine ⟨_, .halt hhalts, ?_⟩
  rw [close_eq { h with dispatcher := none } hs.registered_eq_nil]
  exact ⟨rfl, rfl, rfl, rfl, rfl⟩

/-- A dispatcher that is about to end its work all along may hand out as many of the events that
wait as it likes before it does, and every subscription may get all of those. -/
theorem Loaded.exists_settled_of_halts (hload : h.Loaded) (hhalts : h.Halts) (n : Nat) :
    ∃ h', h.Settles h' ∧ Settled h h' fun _ => n := by
  obtain ⟨signal, hsignal, hends⟩ := id hhalts
  have hworking : h.dispatcher.isSome = true := Option.isSome_of_mem hsignal
  have hpending : h.pending = h.ingress.items := if_pos hworking
  -- first the events pass, then the dispatcher ends its work, and then the relays end theirs
  obtain ⟨h₁, hp⟩ := exists_passes hload.idle hworking n
  have hu := hp.underway hload
  have hs₁ := hload.sound.of_carries hp.moves
  have hhalts₁ : h₁.Halts := by
    refine ⟨signal, hp.dispatcher_eq ▸ hsignal, ?_⟩
    rwa [hu.fired_eq, hp.state_eq]
  obtain ⟨h₂, hm, hsettings, hfired, hstate, hdispatcher, hlanes⟩ :=
    exists_performs_halt hs₁ hhalts₁
  have hnothing : h₂.pending = [] := by
    rw [pending, hdispatcher]
    rfl
  have hgone : ¬h₂.Halts := by
    rintro ⟨other, hother, -⟩
    rw [hdispatcher] at hother
    cases hother
  have hload₂ : h₂.Loaded := ⟨hs₁.of_performs hm, hlanes ▸ hp.idle, .inl hnothing⟩
  have hsettles := settles_settle h₂
  obtain ⟨share, hsettled, -⟩ := hload₂.settled hsettles
  have hcarries : h₁.Carries h₂ := ⟨.halt, not_false, perform?_of_performs hm⟩
  refine ⟨h₂.settle, ⟨(hp.moves.tail hcarries).trans hsettles.1, hsettles.2⟩, hsettled.sound,
    hsettled.atRest, hsettled.settings_eq.trans (hsettings.trans hu.settings_eq),
    hsettled.fired_eq.trans (hfired.trans hu.fired_eq), ?_, ?_, fun hnone => ?_, ?_, fun id => ?_⟩
  · rw [hsettled.state_eq, if_neg hgone, if_pos hhalts, hstate]
  · rw [hsettled.dispatcher_eq, if_neg hgone, if_pos hhalts, hdispatcher]
  · rw [hnone] at hworking
    cases hworking
  · rw [hsettled.length_eq, hlanes, hu.length_eq]
  · have hkept : h₂.subscription? id = h₁.subscription? id := by
      rw [subscription?, subscription?, hlanes]
    rw [hsettled.subscription?_eq, hkept, hp.subscription?_eq hload, Option.map_map, hnothing,
      List.take_nil, hpending]
    refine Option.map_congr fun s _ => ?_
    rw [Function.comp_apply, Subscription.stop_foldl_deliver]
    rfl

end Hub

end ClaimGrid
