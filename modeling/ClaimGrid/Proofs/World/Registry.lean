import Mathlib.Data.List.Infix
import ClaimGrid.Proofs.Board.Step
import ClaimGrid.Proofs.Shard.Lookup
import ClaimGrid.Proofs.World.Reports
import ClaimGrid.Proofs.World.Store

/-!
# Observers can rebuild the registry

An observer keeps a list: it appends the objects that are reported as created and removes those that
are reported as deleted. If no event is lost to it, its list is the registry of the board, in the
same order, and it is never told to append an object that it has or to remove one that it has not.

## Main definitions

* `Event.replay`: what an observer makes of one event.
* `rebuild`: the list of an observer after some events.

## Main results

* `World.rebuild_events`, `World.rebuild_attempted`: one call, and a run.
* `World.keepsUp_run`: a subscription that never has more to read than it holds gets every event.
* `World.rebuild_received`: the registry, rebuilt from what such a subscription gets.
-/

namespace ClaimGrid

variable {α : Type}

/-! ### What an observer makes of the events -/

section Rebuild

variable [DecidableEq α]

/-- What an observer makes of one event: a created object is appended to its list, a deleted one is
removed, and nothing else changes it. It gives up if it has the created object already, if it does
not have the deleted one, or if the event carries no object. -/
def Event.replay (os : List α) (e : Event α) : Option (List α) :=
  match e.kind, e.payload with
  | .created, .object o => if o ∈ os then none else some (os ++ [o])
  | .deleted, .object o => if o ∈ os then some (os.erase o) else none
  | .created, .failure _ | .deleted, .failure _ => none
  | .updated, _ | .checked, _ | .error, _ => some os

/-- The list of an observer after some events. -/
def rebuild (os : List α) (es : List (Event α)) : Option (List α) := es.foldlM Event.replay os

theorem rebuild_append (os : List α) (es es' : List (Event α)) :
    rebuild os (es ++ es') = (rebuild os es).bind (rebuild · es') := List.foldlM_append

theorem rebuild_singleton (os : List α) (e : Event α) : rebuild os [e] = e.replay os :=
  bind_pure (e.replay os)

/-- An observer makes nothing of lookups. -/
theorem rebuild_checked (os found : List α) :
    rebuild os (found.map fun o => ⟨.checked, .object o⟩) = some os := by
  induction found with
  | nil => rfl
  | cons o found ih => exact ih

end Rebuild

namespace World

variable [DecidableEq α] (w : World α)

/-- What an observer makes of the report of a request is what becomes of the registry. -/
theorem replay_reportOf (b : Board α) (r : BoardRequest α) :
    (reportOf r (b.step r).1).replay b.objects = some (b.step r).2.objects := by
  rcases b.step_cases r with ⟨e, s, hstep, -⟩ | ⟨answer, hanswer, hgranted⟩
  · rw [hstep]
    rfl
  · rw [hanswer, hgranted.objects_eq, reportOf, BoardRequest.registryAfter]
    cases heffect : r.effect with
    | create =>
      have hnew : r.object ∉ b.objects := fun h => hgranted.listed.1 h heffect
      exact if_neg hnew
    | update => rfl
    | delete =>
      have hlisted : r.object ∈ b.objects := by
        refine hgranted.listed.2 fun hcreate => ?_
        rw [heffect] at hcreate
        cases hcreate
      exact if_pos hlisted

/-- What an observer makes of the events of a call is what becomes of the registry. -/
theorem rebuild_events (r : WorldRequest α) :
    rebuild w.board.objects (WorldCall.events ⟨r, (w.step r).1⟩) =
      some (w.step r).2.board.objects := by
  rw [board_step]
  cases r with
  | perform r =>
    rw [events_perform, rebuild_singleton]
    exact replay_reportOf w.board r
  | objectAt d | objectsAt l => exact rebuild_checked _ _
  | _ => rfl

/-- What an observer makes of the events of a run is what becomes of the registry. -/
theorem rebuild_attempted (rs : List (WorldRequest α)) :
    rebuild w.board.objects (w.log rs).attempted = some (w.run rs).board.objects := by
  induction rs generalizing w with
  | nil => rfl
  | cons r rs ih =>
    change rebuild _ (_ ++ _) = _
    rw [rebuild_append, rebuild_events]
    exact ih _

/-! ### A subscription that keeps up -/

variable {w} {t : FeedLog (Event α)} {stop signal : SignalId} {id : SubscriptionId} {room : Nat}
  {sent got : List (Event α)} {s : Subscription (Event α)} {places : List Nat}
  {rs : List (WorldRequest α)}

/-- A running feed sends what the calls report. -/
theorem heard_of_running (ht : t.Tells w.feed) (hsignal : t.signal? = some signal)
    (hfired : t.fired stop = false) (hrunning : (w.run rs).feed.state = .running)
    (hstop : .fire stop ∉ rs) :
    FeedLog.heard stop t (w.feed.log (w.log rs).feedRequests) = (w.log rs).attempted := by
  have hstate : FeedLog.state (t ++ w.feed.log (w.log rs).feedRequests) = .running := by
    rw [feed_run] at hrunning
    exact (ht.run _).state_eq.symm.trans hrunning
  have hunfired : FeedLog.fired (t ++ w.feed.log (w.log rs).feedRequests) stop = false := by
    rw [FeedLog.fired_append, hfired, Feed.fired_log _ (w.notMem_feedRequests rfl hstop)]
    rfl
  rw [Feed.heard_log_of_running ht hsignal hstate hunfired, WorldLog.published_feedRequests]

omit [DecidableEq α] in
/-- A call that reads reports nothing. -/
theorem events_eq_nil_or_read_eq_nil (id : SubscriptionId) (c : WorldCall α) :
    c.events = [] ∨ c.read id = [] := by
  obtain ⟨request, answer⟩ := c
  cases request with
  | receive other n => exact .inl rfl
  | _ => exact .inr rfl

/-- A subscription that has lost nothing, and does not have more to read after a call than it holds,
has lost nothing by the call. -/
theorem keepsUp_step (h : w.feed.Hears id stop room sent got s places)
    (hall : got ++ s.buffer = sent) (ht : t.Tells w.feed) {r : WorldRequest α}
    (hheard : FeedLog.heard stop t (w.feed.log (w.log [r]).feedRequests) = (w.log [r]).attempted)
    (hdrop : r ≠ .dropWatch id)
    (hroom : sent.length + (w.log [r]).attempted.length ≤
      got.length + ((w.log [r]).received id).length + room) :
    ∃ s' places', (w.step r).2.feed.Hears id stop room (sent ++ (w.log [r]).attempted)
      (got ++ (w.log [r]).received id) s' places' ∧
      got ++ (w.log [r]).received id ++ s'.buffer = sent ++ (w.log [r]).attempted := by
  have hdrop' : .dropSubscription id ∉ (w.log [r]).feedRequests :=
    w.notMem_feedRequests rfl (by simpa using hdrop.symm)
  have hrun : w.feed.run (w.log [r]).feedRequests = (w.step r).2.feed := (w.feed_run [r]).symm
  obtain ⟨s', places', hs'⟩ := h.run ht hdrop'
  obtain ⟨s₂, places₂, hs₂⟩ := h.afresh.run ht hdrop'
  obtain rfl : s₂ = s' := Option.some.inj (hs₂.found.symm.trans hs'.found)
  rw [hheard, read_feedRequests, hrun] at hs' hs₂
  -- what waits and what is new fit the output together
  have hfits : (s.buffer ++ (w.log [r]).attempted).length ≤ room := by
    have hwaiting := h.keeps.length_waiting_le
    have hsent := congrArg List.length hall
    rw [List.length_append] at hsent ⊢
    rcases events_eq_nil_or_read_eq_nil id ⟨r, (w.step r).1⟩ with hevents | hread
    · have hnone : (w.log [r]).attempted = [] := (List.append_nil _).trans hevents
      rw [hnone, List.length_nil]
      omega
    · have hnone : (w.log [r]).received id = [] := (List.append_nil _).trans hread
      rw [hnone, List.length_nil] at hroom
      omega
  have hnew := hs₂.keeps.append_eq (hs₂.keeps.length_le_of_room hfits)
  refine ⟨s₂, places', hs', ?_⟩
  calc got ++ (w.log [r]).received id ++ s₂.buffer
      = got ++ ([] ++ (w.log [r]).received id ++ s₂.buffer) := by
        rw [List.nil_append, List.append_assoc]
    _ = got ++ (s.buffer ++ (w.log [r]).attempted) := by rw [hnew]
    _ = sent ++ (w.log [r]).attempted := by rw [← List.append_assoc, hall]

/-- A subscription to a running world that never has more to read than it holds gets every event. -/
theorem keepsUp_run (h : w.feed.Hears id stop room sent got s places)
    (hall : got ++ s.buffer = sent) (ht : t.Tells w.feed) (hsignal : t.signal? = some signal)
    (hfired : t.fired stop = false) (hrunning : (w.run rs).feed.state = .running)
    (hstop : .fire stop ∉ rs) (hkept : .dropWatch id ∉ rs)
    (hroom : ∀ first, first <+: rs → sent.length + (w.log first).attempted.length ≤
      got.length + ((w.log first).received id).length + room) :
    ∃ s', (w.run rs).feed.subscription? id = some s' ∧
      got ++ (w.log rs).received id ++ s'.buffer = sent ++ (w.log rs).attempted := by
  induction rs generalizing w t sent got s places with
  | nil =>
    refine ⟨s, h.found, ?_⟩
    rw [log, WorldLog.received, WorldLog.attempted, List.flatMap_nil, List.flatMap_nil,
      List.append_nil, List.append_nil, hall]
  | cons r rs ih =>
    rw [List.mem_cons, not_or] at hstop hkept
    -- the log of the feed, one call later
    have ht' : FeedLog.Tells (t ++ w.feed.log (w.log [r]).feedRequests) (w.run [r]).feed := by
      rw [feed_run]
      exact ht.run _
    have hsignal' : FeedLog.signal? (t ++ w.feed.log (w.log [r]).feedRequests) = some signal := by
      rw [FeedLog.signal?_append, hsignal, Option.some_or]
    have hstop' : .fire stop ∉ [r] := fun hmem => hstop.1 (List.mem_singleton.1 hmem)
    have hfired' : FeedLog.fired (t ++ w.feed.log (w.log [r]).feedRequests) stop = false := by
      rw [FeedLog.fired_append, hfired, Feed.fired_log _ (w.notMem_feedRequests rfl hstop')]
      rfl
    have hnow : (w.run [r]).feed.state = .running := by
      change ((w.run [r]).run rs).feed.state = .running at hrunning
      rw [feed_run, (ht'.run _).state_eq] at hrunning
      exact ht'.state_eq.trans (FeedLog.state_of_append_running hsignal' hrunning)
    have hheard := heard_of_running ht hsignal hfired hnow hstop'
    obtain ⟨s', places', hs', hall'⟩ := keepsUp_step h hall ht hheard (Ne.symm hkept.1)
      (hroom [r] ⟨rs, rfl⟩)
    -- the remaining calls
    have hroom' (first : List (WorldRequest α)) (hfirst : first <+: rs) :
        (sent ++ (w.log [r]).attempted).length + ((w.run [r]).log first).attempted.length ≤
          (got ++ (w.log [r]).received id).length + (((w.run [r]).log first).received id).length +
            room := by
      have hprefix := hroom ([r] ++ first) ((List.prefix_append_right_inj [r]).2 hfirst)
      rw [attempted_log_append, received_log_append, List.length_append, List.length_append]
        at hprefix
      rw [List.length_append, List.length_append]
      omega
    obtain ⟨s₂, hfound, hrest⟩ := ih hs' hall' ht' hsignal' hfired' hrunning hstop.2 hkept.2 hroom'
    refine ⟨s₂, hfound, ?_⟩
    have hattempted := w.attempted_log_append [r] rs
    have hreceived := w.received_log_append id [r] rs
    rw [List.singleton_append] at hattempted hreceived
    rw [hattempted, hreceived, ← List.append_assoc, ← List.append_assoc]
    exact hrest

/-! ### Before the first request -/

/-- On a board where nobody claims a dot, no location has objects. -/
theorem objectsAt_of_unclaimed {b : Board α} (hfree : ∀ d, b.owner? d = none) (l : Location) :
    b.objectsAt l = [] := by
  have hnobody : l.dots.filterMap (fun d => (b.occupancy.getMany l.keys)[d.key]?) = [] := by
    refine List.filterMap_eq_nil_iff.2 fun d _ => ?_
    have howner : b.occupancy.get? d.key = none := hfree d
    rw [ShardMap.getElem?_getMany, howner, ite_self]
  rw [Board.objectsAt, hnobody]
  rfl

/-- Lookups on such a board report nothing. -/
theorem attempted_of_unperformed (rs : List (WorldRequest α))
    (hfree : ∀ d, w.board.owner? d = none) (h : ∀ r, .perform r ∉ rs) :
    (w.log rs).attempted = [] ∧ (w.run rs).board = w.board := by
  induction rs generalizing w with
  | nil => exact ⟨rfl, rfl⟩
  | cons r rs ih =>
    have hcall : (w.step r).2.board = w.board ∧
        WorldCall.events ⟨r, (w.step r).1⟩ = [] := by
      rw [board_step]
      cases r with
      | perform r => exact absurd List.mem_cons_self (h r)
      | objectAt d =>
        refine ⟨rfl, ?_⟩
        rw [WorldCall.events, step, objectAt, hfree]
        rfl
      | objectsAt l =>
        refine ⟨rfl, ?_⟩
        change (w.board.objectsAt l).map _ = []
        rw [objectsAt_of_unclaimed hfree]
        rfl
      | _ => exact ⟨rfl, rfl⟩
    obtain ⟨hrest, hboard⟩ := ih (w := (w.step r).2) (hcall.1 ▸ hfree) fun r' hr' =>
      h r' (List.mem_cons_of_mem _ hr')
    refine ⟨?_, hboard.trans hcall.1⟩
    change WorldCall.events _ ++ _ = []
    rw [hcall.2]
    exact hrest

/-- Before the first request nothing is reported, the registry is empty, and a subscription has
nothing. -/
theorem hears_of_unperformed {c : WorldSettings} {w₀ : World α} (hmake : make c = .ok w₀)
    {before early : List (WorldRequest α)} {capacity : Nat}
    (hid : ((w₀.run before).step (.watch stop capacity)).1 = .watching id)
    (hunperformed : ∀ r, .perform r ∉ before ++ early) (hkept : .dropWatch id ∉ early) :
    let w₁ := w₀.run (before ++ [.watch stop capacity])
    (w₁.log early).attempted = [] ∧ (w₁.run early).board.objects = [] ∧
      ∃ s places, (w₁.run early).feed.Hears id stop (max capacity 1) []
        ((w₁.log early).received id) s places ∧ (w₁.log early).received id ++ s.buffer = [] := by
  intro w₁
  obtain ⟨area, -, hboard, -⟩ := parts_of_make hmake
  obtain ⟨hnothing, hempty⟩ := attempted_of_unperformed (before ++ [.watch stop capacity] ++ early)
    (Board.owner?_of_make hboard) (by simpa using hunperformed)
  have hw₂ : w₁.run early = w₀.run (before ++ [.watch stop capacity] ++ early) :=
    (run_append _ _ _).symm
  -- what is sent is among what is accepted, and that is among what is reported
  have hsilent : FeedLog.heard stop
      (w₀.feed.log (w₀.log (before ++ [.watch stop capacity])).feedRequests)
      (w₁.feed.log (w₁.log early).feedRequests) = [] := by
    have hsublist := (FeedLog.heard_sublist_accepted stop
      (w₀.feed.log (w₀.log (before ++ [.watch stop capacity])).feedRequests)
      (w₁.feed.log (w₁.log early).feedRequests)).trans (FeedLog.accepted_sublist _)
    rw [List.map_append, Feed.map_request_log, Feed.map_request_log, ← feedRequests_log_append,
      WorldLog.published_feedRequests, hnothing] at hsublist
    exact List.sublist_nil.1 hsublist
  obtain ⟨s, places, hs⟩ := hears_run hmake hid hkept
  rw [hsilent] at hs
  rw [attempted_log_append, List.append_eq_nil_iff] at hnothing
  refine ⟨hnothing.2, ?_, s, places, hs, hs.keeps.append_eq (Nat.zero_le _)⟩
  rw [hw₂, hempty, Board.objects_of_make hboard]

/-- Observers can rebuild the registry. Take a world that is running before its first request, and a
subscription that was made before that, is not ended, and never has more to read than it holds. What
has been read from it and what waits in it, replayed from the empty list, is the registry. -/
theorem rebuild_received {c : WorldSettings} {w₀ : World α} (hmake : make c = .ok w₀)
    (before early calls : List (WorldRequest α)) (stop : SignalId) (capacity : Nat)
    (id : SubscriptionId) (hid : ((w₀.run before).step (.watch stop capacity)).1 = .watching id)
    (hunperformed : ∀ r, .perform r ∉ before ++ early)
    (hstop : .fire stop ∉ before ++ early ++ calls) (hkept : .dropWatch id ∉ early ++ calls) :
    let w₁ := w₀.run (before ++ [.watch stop capacity])
    let w := w₁.run (early ++ calls)
    (w₁.run early).feed.isRunning → w.feed.isRunning →
      (∀ first, first <+: early ++ calls → (w₁.log first).attempted.length ≤
        ((w₁.log first).received id).length + max capacity 1) →
      ∃ s, w.feed.subscription? id = some s ∧
        rebuild [] ((w₁.log (early ++ calls)).received id ++ s.buffer) =
          some w.board.objects := by
  intro w₁ w hstarted hrunning hkeepsUp
  rw [List.mem_append, not_or] at hkept
  obtain ⟨hnothing, hempty, s₂, places₂, hs₂, hall₂⟩ :=
    hears_of_unperformed hmake hid hunperformed hkept.1
  -- the log of the feed up to here
  obtain ⟨-, -, -, hfeed⟩ := parts_of_make hmake
  have ht := Feed.tells_log hfeed
    (w₀.log (before ++ [.watch stop capacity] ++ early)).feedRequests
  have hw₂ : w₀.run (before ++ [.watch stop capacity] ++ early) = w₁.run early := run_append _ _ _
  rw [← feed_run, hw₂] at ht
  have hstate : (w₁.run early).feed.state = .running := of_decide_eq_true hstarted
  obtain ⟨-, signal, hsignal⟩ := FeedLog.state_eq_running_iff.1 (ht.state_eq.symm.trans hstate)
  have hunfired : .fire stop ∉ before ++ [.watch stop capacity] ++ early := by
    simp only [List.mem_append, not_or] at hstop
    simpa using hstop.1
  have hw : w = (w₁.run early).run calls := run_append _ _ _
  have hrunning' : ((w₁.run early).run calls).feed.state = .running :=
    hw ▸ of_decide_eq_true hrunning
  have hroom (first : List (WorldRequest α)) (hfirst : first <+: calls) :
      ([] : List (Event α)).length + ((w₁.run early).log first).attempted.length ≤
        ((w₁.log early).received id).length +
          (((w₁.run early).log first).received id).length + max capacity 1 := by
    have hprefix := hkeepsUp (early ++ first) ((List.prefix_append_right_inj early).2 hfirst)
    rw [attempted_log_append, received_log_append, hnothing, List.nil_append,
      List.length_append] at hprefix
    rw [List.length_nil]
    omega
  obtain ⟨s, hfound, hall⟩ := keepsUp_run hs₂ hall₂ ht hsignal
    (Feed.fired_log _ (w₀.notMem_feedRequests rfl hunfired)) hrunning'
    (fun h => hstop (List.mem_append_right _ h)) hkept.2 hroom
  refine ⟨s, hw ▸ hfound, ?_⟩
  have hrebuilt := (w₁.run early).rebuild_attempted calls
  rw [received_log_append, hall, List.nil_append, hw, ← hempty]
  exact hrebuilt

/-- An output of three, read once: a refused request, an object that claims nothing, and one that
leaves and comes back. -/
theorem rebuild_received_of_three :
    ∃ w₀ : World Nat, make {} = .ok w₀ ∧
      let before : List (WorldRequest Nat) := [.start 0]
      let early : List (WorldRequest Nat) := [.objectAt ⟨0, 0⟩]
      let calls : List (WorldRequest Nat) :=
        [.perform (.create 7 (.ofDot ⟨0, 0⟩)), .perform (.create 8 (.ofDot ⟨0, 0⟩)),
          .perform (.createAvailable 8 (.ofDot ⟨0, 0⟩)), .receive 0 2,
          .perform (.delete 7 (.ofDot ⟨0, 0⟩)), .perform (.create 7 (.ofDot ⟨1, 0⟩))]
      let w₁ := w₀.run (before ++ [.watch 1 3])
      ∃ s, (w₁.run (early ++ calls)).feed.subscription? 0 = some s ∧
        rebuild [] ([⟨.created, .object 7⟩, ⟨.error, .failure (.board .locationOccupied)⟩] ++
          s.buffer) = some [8, 7] := by
  have hmade : ∃ w₀ : World Nat, make {} = .ok w₀ := ⟨_, rfl⟩
  obtain ⟨w₀, hmake⟩ := hmade
  refine ⟨w₀, hmake, ?_⟩
  intro before early calls w₁
  have hid : ((w₀.run before).step (.watch 1 3)).1 = .watching 0 := by
    obtain rfl := Except.ok.inj hmake
    rfl
  have hrunning : (w₁.run early).feed.isRunning ∧ (w₁.run (early ++ calls)).feed.isRunning := by
    obtain rfl := Except.ok.inj hmake
    decide +kernel
  have hkeepsUp : ∀ first ∈ (early ++ calls).inits, (w₁.log first).attempted.length ≤
      ((w₁.log first).received 0).length + max 3 1 := by
    obtain rfl := Except.ok.inj hmake
    decide +kernel
  have hreceived : (w₁.log (early ++ calls)).received 0 =
      [⟨.created, .object 7⟩, ⟨.error, .failure (.board .locationOccupied)⟩] := by
    obtain rfl := Except.ok.inj hmake
    decide +kernel
  have hobjects : (w₁.run (early ++ calls)).board.objects = [8, 7] := by
    obtain rfl := Except.ok.inj hmake
    decide +kernel
  obtain ⟨s, hfound, hrebuilt⟩ := rebuild_received hmake before early calls 1 3 0 hid
    (by simp [before, early]) (by simp [before, early, calls]) (by simp [early, calls])
    hrunning.1 hrunning.2 fun first hfirst => hkeepsUp first ((List.mem_inits _ _).2 hfirst)
  refine ⟨s, hfound, ?_⟩
  rw [← hreceived, ← hobjects]
  exact hrebuilt

end World

end ClaimGrid
