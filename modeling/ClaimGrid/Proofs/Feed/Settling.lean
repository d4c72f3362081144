import Mathlib.Tactic.Choose
import Mathlib.Tactic.Tauto
import ClaimGrid.Proofs.Feed.Moves
import ClaimGrid.Proofs.Feed.Outputs

/-!
# What a hub comes to

A call at rest leaves a hub in which all lanes are idle and some events may wait for the dispatcher.
From there on the dispatcher and the relays make their moves in any order. As long as no event is
lost, the order does not matter: an output that events still reach in the end has taken in all that
waited, one after the other. Only where the dispatcher was about to end its work all along, each
subscription gets as many of the events as were passed on before the end, a number of its own.

## Main definitions

* `Hub.pending`: the events that wait for a dispatcher at work.
* `Hub.Loaded`: a hub after a call, before any move.
* `Hub.Underway`: how far the moves have come.
* `Hub.Settled`: what a hub comes to.

## Main results

* `Hub.Underway.step`, `Hub.Loaded.underway`: one move, and any number of them.
* `Hub.Loaded.settled`: a loaded hub at rest again.
-/

namespace ClaimGrid

open Relation

variable {ε : Type} {l l' : Lane ε} {sent : List ε}

/-- What a subscriber has once the events that have passed are in the output. -/
theorem Lane.Conveys.foldl_deliver_eq {passed : List ε} (h : Lane.Conveys sent l l')
    (hitems : l'.output.items = Subscription.newest l.output.capacity (l.output.items ++ passed))
    (hidle : l.working = false → passed = []) (id : SubscriptionId) (attached : Bool) :
    (⟨id, l.stop, l'.output.capacity, l'.output.items, attached⟩ : Subscription ε) =
      { passed.foldl Subscription.deliver
          ⟨id, l.stop, l.output.capacity, l.output.items, l.working⟩ with
        attached := attached } := by
  rw [h.capacity_eq, hitems]
  cases hworking : l.working with
  | true =>
    have hfolded := Subscription.foldl_deliver_of_attached
      (s := ⟨id, l.stop, l.output.capacity, l.output.items, true⟩) rfl l.output.length_le passed
    rw [hfolded]
  | false =>
    rw [hidle hworking, List.append_nil, Subscription.newest_of_length_le l.output.length_le]
    rfl

namespace Hub

variable {h h' h'' : Hub ε} {m : Move} {id : SubscriptionId}

/-- The events that wait for a dispatcher at work. -/
def pending (h : Hub ε) : List ε := if h.dispatcher.isSome then h.ingress.items else []

/-- Whether events reach those who listen to a signal: the hub is not closed, and the signal has not
fired. -/
def reaches (h : Hub ε) (stop : SignalId) : Bool := h.state ≠ .stopped && !h.fired.contains stop

/-- A hub after a call, before any move: no event is on a lane, and if events wait, no relay is
about to end its work. -/
structure Loaded (h : Hub ε) : Prop where
  sound : h.Sound
  idle : ∀ l ∈ h.lanes, l.working = true → l.due = []
  calm : h.pending = [] ∨ h.state ≠ .stopped ∧ ∀ l ∈ h.lanes, l.working = true → ¬h.Ended l

/-- How far the moves from one hub have come in another one, after some events were handed to the
lanes. -/
structure Underway (h h' : Hub ε) (sent : List ε) : Prop where
  settings_eq : h'.settings = h.settings
  fired_eq : h'.fired = h.fired
  /-- The dispatcher is at work as before, or has closed the hub. -/
  turns : h'.dispatcher = h.dispatcher ∧ h'.state = h.state ∨
    h.Halts ∧ h'.dispatcher = none ∧ h'.state = .stopped
  ingress_eq : h.ingress.items = sent ++ h'.ingress.items
  sent_eq_nil : h.dispatcher = none → sent = []
  length_eq : h'.lanes.length = h.lanes.length
  conveys : ∀ (id : SubscriptionId) (l : Lane ε), h.lanes[id]? = some l →
    ∃ l', h'.lanes[id]? = some l' ∧ Lane.Conveys sent l l'

namespace Underway

theorem refl (hload : h.Loaded) : h.Underway h [] :=
  ⟨rfl, rfl, .inl ⟨rfl, rfl⟩, rfl, fun _ => rfl, rfl,
    fun _ l hl => ⟨l, hl, .nil (hload.idle l (List.mem_of_getElem? hl))⟩⟩

/-- A dispatcher at work has been at work all the time. -/
theorem turns_of_isSome (hu : h.Underway h' sent) (hworking : h'.dispatcher.isSome = true) :
    h'.dispatcher = h.dispatcher ∧ h'.state = h.state := by
  rcases hu.turns with hsame | ⟨-, hnone, -⟩
  · exact hsame
  · rw [hnone] at hworking
    cases hworking

/-- A hub in which an event is handed to the lanes is open. -/
theorem open_of_dispatch (hload : h.Loaded) (hu : h.Underway h' sent)
    (hworking : h'.dispatcher.isSome = true) (hwaiting : h'.ingress.items ≠ []) :
    h'.state ≠ .stopped := by
  obtain ⟨hdispatcher, hstate⟩ := hu.turns_of_isSome hworking
  rw [hstate]
  rcases hload.calm with hnothing | hcalm
  · rw [pending, ← hdispatcher, if_pos hworking, hu.ingress_eq, List.append_eq_nil_iff] at hnothing
    exact absurd hnothing.2 hwaiting
  · exact hcalm.1

/-- Something is done on one lane. -/
theorem set (hu : h.Underway h' sent) (hl : h'.lanes[id]? = some l)
    {registered : List SubscriptionId}
    (hstep : ∀ l₀, h.lanes[id]? = some l₀ → Lane.Conveys sent l₀ l → Lane.Conveys sent l₀ l') :
    h.Underway { h' with lanes := h'.lanes.set id l', registered := registered } sent := by
  refine ⟨hu.settings_eq, hu.fired_eq, hu.turns, hu.ingress_eq, hu.sent_eq_nil,
    List.length_set.trans hu.length_eq, fun id' l₀ hl₀ => ?_⟩
  obtain ⟨l₁, hl₁, hconveys⟩ := hu.conveys id' l₀ hl₀
  change ∃ l₂, (h'.lanes.set id l')[id']? = some l₂ ∧ _
  rw [getElem?_set_of_getElem? hl]
  by_cases hid : id = id'
  · subst hid
    obtain rfl := Option.some.inj (hl₁.symm.trans hl)
    exact ⟨l', if_pos rfl, hstep l₀ hl₀ hconveys⟩
  · exact ⟨l₁, (if_neg hid).trans hl₁, hconveys⟩

/-- An event is handed to the lanes, none of which is full. -/
theorem dispatch (hload : h.Loaded) (hs : h'.Sound) (hu : h.Underway h' sent)
    (hlossless : ¬h'.Loses .dispatch) {e : ε} {ingress : BoundedQueue ε}
    (hworking : h'.dispatcher.isSome = true)
    (hreceive : h'.ingress.tryReceive? = some (e, ingress)) :
    h.Underway { h' with
      ingress := ingress
      lanes := h'.lanes.mapIdx fun id l => if id ∈ h'.registered then l.enter e else l }
      (sent ++ [e]) := by
  have hitems := (BoundedQueue.tryReceive?_eq_some hreceive).2
  obtain ⟨hdispatcher, -⟩ := hu.turns_of_isSome hworking
  have hopen := hu.open_of_dispatch hload hworking (by rw [hitems]; exact List.cons_ne_nil _ _)
  refine ⟨hu.settings_eq, hu.fired_eq, hu.turns, ?_, fun hnone => ?_,
    List.length_mapIdx.trans hu.length_eq, fun id l hl => ?_⟩
  · rw [hu.ingress_eq, hitems, List.append_assoc, List.singleton_append]
  · rw [hdispatcher, hnone] at hworking
    cases hworking
  · obtain ⟨l', hl', hconveys⟩ := hu.conveys id l hl
    have hlane : (h'.lanes.mapIdx fun id l => if id ∈ h'.registered then l.enter e else l)[id]? =
        some (if id ∈ h'.registered then l'.enter e else l') := by
      rw [List.getElem?_mapIdx, hl', Option.map_some]
    refine ⟨_, hlane, ?_⟩
    by_cases hid : id ∈ h'.registered
    · rw [if_pos hid]
      refine hconveys.enter (fun hworks => ?_) e
      exact Bool.eq_false_iff.2 fun hfull => hlossless ⟨id, l', hid, hl', hworks, hfull⟩
    · rw [if_neg hid]
      refine hconveys.of_not_working (Bool.eq_false_iff.2 fun hworks => hid ?_) e
      exact (hs.mem_registered_iff hopen id).2 ⟨l', hl', hworks⟩

/-- One more move in which no event is lost. -/
theorem step (hload : h.Loaded) (hs : h'.Sound) (hu : h.Underway h' sent)
    (hlossless : ¬h'.Loses m) (hm : h'.Performs m h'') : ∃ sent', h.Underway h'' sent' := by
  cases hm with
  | dispatch e ingress hworking hreceive =>
    exact ⟨_, hu.dispatch hload hs hlossless hworking hreceive⟩
  | halt hhalts =>
    have hclose := close_eq { h' with dispatcher := none } hs.registered_eq_nil
    rw [hclose]
    obtain ⟨signal, hsignal, hends⟩ := hhalts
    obtain ⟨hdispatcher, hstate⟩ := hu.turns_of_isSome (Option.isSome_of_mem hsignal)
    rw [hdispatcher] at hsignal
    rw [hu.fired_eq, hstate] at hends
    exact ⟨sent, { hu with turns := .inr ⟨⟨signal, hsignal, hends⟩, rfl, rfl⟩ }⟩
  | pass id l l' hl hpass => exact ⟨sent, hu.set hl fun l₀ _ hconveys => hconveys.pass hpass⟩
  | sample id l l' hl hsample =>
    exact ⟨sent, hu.set hl fun l₀ _ hconveys => hconveys.sample hsample⟩
  | expire id l l' hl hexpire => exact absurd trivial hlossless
  | quit id l hl hworking hended => exact ⟨sent, hu.set hl fun l₀ _ hconveys => hconveys.quit⟩

end Underway

namespace Loaded

/-- Any number of moves in which no event is lost. -/
theorem underway (hload : h.Loaded) (hmoves : ReflTransGen Carries h h') :
    ∃ sent, h.Underway h' sent := by
  induction hmoves with
  | refl => exact ⟨[], .refl hload⟩
  | tail hmoves hm ih =>
    obtain ⟨sent, hu⟩ := ih
    obtain ⟨m, hlossless, hm⟩ := hm
    exact hu.step hload (hload.sound.of_carries hmoves) hlossless (performs_of_perform? hm)

end Loaded

/-! ### At rest again -/

/-- What a hub comes to, where each subscription has its own share of the events that waited. -/
structure Settled (h h' : Hub ε) (share : SubscriptionId → Nat) : Prop where
  sound : h'.Sound
  atRest : h'.AtRest
  settings_eq : h'.settings = h.settings
  fired_eq : h'.fired = h.fired
  state_eq : h'.state = if h.Halts then .stopped else h.state
  dispatcher_eq : h'.dispatcher = if h.Halts then none else h.dispatcher
  ingress_eq : h.dispatcher = none → h'.ingress.items = h.ingress.items
  length_eq : h'.lanes.length = h.lanes.length
  subscription?_eq : ∀ id, h'.subscription? id = (h.subscription? id).map fun s =>
    { (h.pending.take (share id)).foldl .deliver s with attached := h'.reaches s.stop }

/-- At rest, those relays are at work that events reach, unless the subscription was dropped. -/
theorem AtRest.working_eq (hrest : h.AtRest) (hs : h.Sound) (hl : l ∈ h.lanes)
    (hkept : l.abandoned = false) : l.working = h.reaches l.stop := by
  have hended : h.Ended l ↔ h.reaches l.stop = false := by
    rw [Ended, hkept, reaches, Bool.and_eq_false_iff, decide_eq_false_iff_not, not_not,
      Bool.not_eq_false', List.contains_iff_mem]
    tauto
  cases hworking : l.working with
  | true =>
    have hreaches := mt hended.2 (hrest.not_ended hl hworking)
    exact (Bool.eq_true_of_not_eq_false hreaches).symm
  | false => exact (hended.1 (hs.ended l hl hworking)).symm

namespace Underway

theorem pending_eq (hu : h.Underway h' sent) :
    h.pending = sent ++ if h.dispatcher.isSome then h'.ingress.items else [] := by
  rw [pending]
  split
  · exact hu.ingress_eq
  · rename_i hnone
    rw [hu.sent_eq_nil (Option.not_isSome_iff_eq_none.1 hnone), List.append_nil]

/-- What one subscriber has at rest: the events of its share have arrived. -/
theorem exists_share (hu : h.Underway h' sent) (hs : h'.Sound) (hrest : h'.AtRest)
    (id : SubscriptionId) :
    ∃ n, (h'.Works id → n = sent.length) ∧
      h'.subscription? id = (h.subscription? id).map fun s =>
        { (h.pending.take n).foldl .deliver s with attached := h'.reaches s.stop } := by
  cases hl : h.lanes[id]? with
  | none =>
    have hnone : h'.lanes[id]? = none := by
      rw [List.getElem?_eq_none_iff] at hl ⊢
      rw [hu.length_eq]
      exact hl
    refine ⟨sent.length, fun _ => rfl, ?_⟩
    rw [subscription?, subscription?, hl, hnone]
    rfl
  | some l =>
    obtain ⟨l', hl', hconveys⟩ := hu.conveys id l hl
    obtain ⟨passed, rest, hsent, hitems, hdue, hidle⟩ := hconveys.passed
    have hmem := List.mem_of_getElem? hl'
    refine ⟨passed.length, ?_, ?_⟩
    · rintro ⟨l₁, hl₁, hworking⟩
      obtain rfl := Option.some.inj (hl₁.symm.trans hl')
      rw [hsent, ← hdue hworking, hrest.due_eq_nil hmem hworking, List.append_nil]
    · have htake : h.pending.take passed.length = passed := by
        rw [hu.pending_eq, hsent, List.append_assoc, List.take_left]
      rw [subscription?, subscription?, hl, hl', Option.bind_some, Option.bind_some,
        hconveys.abandoned_eq]
      cases hkept : l.abandoned with
      | true => rfl
      | false =>
        have hworking := hrest.working_eq hs hmem (hconveys.abandoned_eq.trans hkept)
        rw [if_neg Bool.false_ne_true, if_neg Bool.false_ne_true, Option.map_some, htake, hworking,
          hconveys.stop_eq]
        exact congrArg some (hconveys.foldl_deliver_eq hitems hidle id (h'.reaches l.stop))

end Underway

namespace Loaded

/-- A dispatcher that was about to end its work has done so. -/
theorem turned (hrest : h'.AtRest) (hu : h.Underway h' sent) :
    h'.state = (if h.Halts then .stopped else h.state) ∧
      h'.dispatcher = if h.Halts then none else h.dispatcher := by
  rcases hu.turns with ⟨hdispatcher, hstate⟩ | ⟨hhalts, hdispatcher, hstate⟩
  · have hgoes : ¬h.Halts := by
      rintro ⟨signal, hsignal, hends⟩
      refine hrest.not_halts ⟨signal, hdispatcher ▸ hsignal, ?_⟩
      rwa [hu.fired_eq, hstate]
    rw [if_neg hgoes, if_neg hgoes]
    exact ⟨hstate, hdispatcher⟩
  · rw [if_pos hhalts, if_pos hhalts]
    exact ⟨hstate, hdispatcher⟩

/-- Where the dispatcher stays at work, it has handed out all that waited, and every relay that was
at work still is. -/
theorem works_of_not_halts (hload : h.Loaded) (hs : h'.Sound) (hrest : h'.AtRest)
    (hu : h.Underway h' sent) (hgoes : ¬h.Halts) (hl : h.lanes[id]? = some l)
    (hworking : l.working = true) : h.pending = [] ∨ h.pending = sent ∧ h'.Works id := by
  obtain ⟨hstate, hdispatcher⟩ := turned hrest hu
  rw [if_neg hgoes] at hstate hdispatcher
  refine hload.calm.imp_right fun ⟨hopen, hcalm⟩ => ⟨?_, ?_⟩
  · rw [hu.pending_eq]
    split
    · rename_i hsome
      rw [hrest.ingress_eq_nil (hdispatcher ▸ hsome), List.append_nil]
    · rw [List.append_nil]
  · obtain ⟨l', hl', hconveys⟩ := hu.conveys id l hl
    refine ⟨l', hl', Bool.eq_true_of_not_eq_false fun hidle => ?_⟩
    have hended := hs.ended l' (List.mem_of_getElem? hl') hidle
    refine hcalm l (List.mem_of_getElem? hl) hworking ?_
    rwa [Ended, hconveys.stop_eq, hconveys.abandoned_eq, hu.fired_eq, hstate] at hended

/-- A subscription that events do not reach takes in nothing, whatever its share is. -/
theorem foldl_take_eq {s : Subscription ε} {n : Nat} (hfound : h.subscription? id = some s)
    (hall : ∀ l, h.lanes[id]? = some l → l.working = true →
      h.pending = [] ∨ n = h.pending.length) :
    (h.pending.take n).foldl .deliver s = h.pending.foldl .deliver s := by
  obtain ⟨l, hl, -, rfl⟩ := subscription?_eq_some hfound
  cases hworking : l.working with
  | true =>
    rcases hall l hl hworking with hnothing | rfl
    · rw [hnothing, List.take_nil]
    · rw [List.take_length]
  | false =>
    rw [Subscription.foldl_deliver_of_detached rfl, Subscription.foldl_deliver_of_detached rfl]

/-- A loaded hub at rest again. If the dispatcher stays at work, no subscription is left short of an
event that waited. -/
theorem settled (hload : h.Loaded) (hsettles : h.Settles h') :
    ∃ share, Settled h h' share ∧ (¬h.Halts → ∀ id, share id = h.pending.length) := by
  obtain ⟨hmoves, hrest⟩ := hsettles
  obtain ⟨sent, hu⟩ := hload.underway hmoves
  have hs := hload.sound.of_carries hmoves
  obtain ⟨hstate, hdispatcher⟩ := turned hrest hu
  have hingress (hnone : h.dispatcher = none) : h'.ingress.items = h.ingress.items := by
    rw [hu.ingress_eq, hu.sent_eq_nil hnone, List.nil_append]
  choose share hall hshare using hu.exists_share hs hrest
  by_cases hhalts : h.Halts
  · exact ⟨share, ⟨hs, hrest, hu.settings_eq, hu.fired_eq, hstate, hdispatcher, hingress,
      hu.length_eq, hshare⟩, absurd hhalts⟩
  · refine ⟨fun _ => h.pending.length, ⟨hs, hrest, hu.settings_eq, hu.fired_eq, hstate, hdispatcher,
      hingress, hu.length_eq, fun id => ?_⟩, fun _ _ => rfl⟩
    rw [hshare id, List.take_length]
    refine Option.map_congr fun s hfound => ?_
    rw [foldl_take_eq hfound fun l hl hworking => ?_]
    have hworks := hload.works_of_not_halts hs hrest hu hhalts hl hworking
    refine hworks.imp_right fun ⟨hsent, hworks⟩ => ?_
    rw [hall id hworks, hsent]

end Loaded

end Hub

end ClaimGrid
