import ClaimGrid.Proofs.World.Calls

/-!
# The events of a world are its calls

A subscriber that was registered before the start, and has room for everything, receives one event
for every reported call: as many of those before the start as the queue holds, then every one until
the feed is closed, and nothing afterwards.

## Main results

* `World.hears_run`: what a subscription to a world has along a run.
* `World.received_eq_attempted`: a world that is started once and closed at most once.
-/

namespace ClaimGrid.World

variable {α : Type}

variable [DecidableEq α] {c : WorldSettings} {w₀ : World α} {stop signal : SignalId}
  {capacity : Nat} {id : SubscriptionId}

/-- What a subscription to a world has along a run that does not drop it. -/
theorem hears_run (hmake : make c = .ok w₀) {before after : List (WorldRequest α)}
    (hid : ((w₀.run before).step (.watch stop capacity)).1 = .watching id)
    (hkept : .dropWatch id ∉ after) :
    let w₁ := w₀.run (before ++ [.watch stop capacity])
    ∃ s places, (w₁.run after).feed.Hears id stop (max capacity 1)
      (FeedLog.heard stop (w₀.feed.log (w₀.log (before ++ [.watch stop capacity])).feedRequests)
        (w₁.feed.log (w₁.log after).feedRequests))
      ((w₁.log after).received id) s places := by
  intro w₁
  obtain ⟨-, -, -, hfeed⟩ := parts_of_make hmake
  have hcalls : (w₀.log (before ++ [.watch stop capacity])).feedRequests =
      (w₀.log before).feedRequests ++ [.subscribe stop capacity] := by
    rw [feedRequests_log_append]
    rfl
  have hid' : ((w₀.feed.run (w₀.log before).feedRequests).step (.subscribe stop capacity)).1 =
      .subscribed id := by
    rw [← feed_run]
    injection hid with hid
    exact congrArg FeedAnswer.subscribed hid
  obtain ⟨s₁, hnew⟩ := Feed.hears_subscribe hfeed _ stop capacity hid'
  rw [← hcalls, ← feed_run] at hnew
  have ht := Feed.tells_log hfeed (w₀.log (before ++ [.watch stop capacity])).feedRequests
  rw [← feed_run] at ht
  have hs := hnew.run ht (w₁.notMem_feedRequests rfl hkept)
  rwa [← feed_run, List.nil_append, List.nil_append, read_feedRequests] at hs

/-- What a world sends to a subscription that was made before the start: the events before the start
that the queue took, and every event up to the call that stops the feed. -/
theorem heard_eq_attempted (hfeed : Feed.make c.feed = .ok w₀.feed)
    {before early late rest : List (WorldRequest α)}
    (hstart : ∀ signal, .start signal ∉ before ++ early)
    (hclose : .close ∉ before ++ early ++ late) (hfire : .fire signal ∉ before ++ early ++ late)
    (hstop : .fire stop ∉ before ++ early ++ late)
    (hrest : rest = [] ∨ rest.head? = some .close ∨ rest.head? = some (.fire signal)) :
    let setup := before ++ .watch stop capacity :: early
    let w₁ := w₀.run (before ++ [.watch stop capacity])
    let w₂ := ((w₀.run setup).step (.start signal)).2
    FeedLog.heard stop (w₀.feed.log (w₀.log (before ++ [.watch stop capacity])).feedRequests)
        (w₁.feed.log (w₁.log (early ++ .start signal :: (late ++ rest))).feedRequests) =
      (w₀.log setup).attempted.take c.feed.ingressCapacity.toNat ++ (w₂.log late).attempted := by
  intro setup w₁ w₂
  -- the same calls, as the feed sees them
  have hsplit : before ++ [.watch stop capacity] ++ early = setup := List.append_assoc _ _ _
  have hw₁ : w₁.run early = w₀.run setup := by rw [← run_append, hsplit]
  have hsetup : (w₀.log (before ++ [.watch stop capacity])).feedRequests ++
      (w₁.log early).feedRequests = (w₀.log setup).feedRequests := by
    rw [← hsplit, feedRequests_log_append _ (before ++ _)]
  have hcalls : (w₁.log (early ++ .start signal :: (late ++ rest))).feedRequests =
      (w₁.log early).feedRequests ++
        .start signal :: ((w₂.log late).feedRequests ++ ((w₂.run late).log rest).feedRequests) := by
    rw [feedRequests_log_append, hw₁, ← feedRequests_log_append]
    rfl
  have hunasked {r : WorldRequest α} {r' : FeedRequest (Event α)} (h : r ∉ before ++ early)
      (hr : r.toFeed? = some r') (hwatch : r ≠ .watch stop capacity) :
      r' ∉ (w₀.log setup).feedRequests := by
    rw [List.mem_append, not_or] at h
    refine w₀.notMem_feedRequests hr ?_
    rw [List.mem_append, List.mem_cons, not_or, not_or]
    exact ⟨h.1, hwatch, h.2⟩
  have hunasked' {r : WorldRequest α} {r' : FeedRequest (Event α)}
      (h : r ∉ before ++ early ++ late) (hr : r.toFeed? = some r')
      (hwatch : r ≠ .watch stop capacity) :
      r' ∉ (w₀.log setup).feedRequests ++ (w₂.log late).feedRequests := by
    rw [List.mem_append, not_or] at h ⊢
    exact ⟨hunasked h.1 hr hwatch, w₂.notMem_feedRequests hr h.2⟩
  have hunstarted (s : SignalId) := hunasked (hstart s) rfl nofun
  have hunclosed := hunasked' hclose rfl nofun
  have hunfired := hunasked' hfire rfl nofun
  have hunstopped := hunasked' hstop rfl nofun
  have hstopping : ((w₂.run late).log rest).feedRequests = [] ∨
      ((w₂.run late).log rest).feedRequests.head? = some .close ∨
      ((w₂.run late).log rest).feedRequests.head? = some (.fire signal) := by
    cases rest with
    | nil => exact .inl rfl
    | cons r rest =>
      rcases hrest with hnil | hfirst | hfirst
      · cases hnil
      · obtain rfl : r = .close := Option.some.inj hfirst
        exact .inr (.inl rfl)
      · obtain rfl : r = .fire signal := Option.some.inj hfirst
        exact .inr (.inr rfl)
  rw [← hsetup] at hunstarted hunclosed hunfired hunstopped
  have hsent := Feed.heard_log_of_start hfeed hunstarted hunclosed hunfired hunstopped hstopping
  rw [hsetup, WorldLog.published_feedRequests, WorldLog.published_feedRequests, ← feed_run,
    ← hcalls] at hsent
  exact hsent

/-- Reading all that waits. -/
theorem received_log_receive {w : World α} {room : Nat} {sent got : List (Event α)}
    {s : Subscription (Event α)} {places : List Nat} {rs : List (WorldRequest α)}
    (hs : (w.run rs).feed.Hears id stop room sent got s places) {n : Nat}
    (hn : s.buffer.length ≤ n) :
    (w.log (rs ++ [.receive id n])).received id = (w.log rs).received id ++ s.buffer := by
  have hread : WorldCall.read id ⟨.receive id n, ((w.run rs).step (.receive id n)).1⟩ =
      s.buffer := by
    have hanswer := hs.answer_receive n
    rw [List.take_of_length_le hn] at hanswer
    injection hanswer with hanswer
    rw [step, hanswer]
    exact if_pos rfl
  rw [received_log_append, ← hread]
  exact congrArg _ (List.append_nil _)

/-- A world that is started once, and closed at most once, reports its calls. A subscription that
was made before the start, and holds everything, gets the first events before the start, as many as
the queue takes, and then every event up to the call that stops the feed; what has been read from it
is the beginning of these events, and what waits in it is the rest. -/
theorem received_eq_attempted (hmake : make c = .ok w₀)
    (before early late rest : List (WorldRequest α)) (stop signal : SignalId) (capacity : Nat)
    (hid : ((w₀.run before).step (.watch stop capacity)).1 = .watching id)
    (hstart : ∀ signal, .start signal ∉ before ++ early)
    (hclose : .close ∉ before ++ early ++ late) (hfire : .fire signal ∉ before ++ early ++ late)
    (hstop : .fire stop ∉ before ++ early ++ late)
    (hrest : rest = [] ∨ rest.head? = some .close ∨ rest.head? = some (.fire signal))
    (hkept : .dropWatch id ∉ early ++ late ++ rest) :
    let setup := before ++ .watch stop capacity :: early
    let w₁ := w₀.run (before ++ [.watch stop capacity])
    let w₂ := ((w₀.run setup).step (.start signal)).2
    let calls := early ++ .start signal :: (late ++ rest)
    let expected := (w₀.log setup).attempted.take c.feed.ingressCapacity.toNat ++
      (w₂.log late).attempted
    expected.length ≤ max capacity 1 →
      ∃ s, (w₁.run calls).feed.subscription? id = some s ∧
        (w₁.log calls).received id ++ s.buffer = expected ∧
        ∀ n, s.buffer.length ≤ n → (w₁.log (calls ++ [.receive id n])).received id = expected := by
  intro setup w₁ w₂ calls expected hroom
  obtain ⟨-, -, -, hfeed⟩ := parts_of_make hmake
  have hkept' : .dropWatch id ∉ calls := by simpa [calls] using hkept
  obtain ⟨s, places, hs⟩ := hears_run hmake hid hkept'
  rw [heard_eq_attempted hfeed hstart hclose hfire hstop hrest] at hs
  have hall := hs.keeps.append_eq (hs.keeps.length_le_of_room hroom)
  exact ⟨s, hs.found, hall, fun n hn => (received_log_receive hs hn).trans hall⟩

/-- A queue of two: of three events before the start the last one is lost. After the start nothing
is, and what is called after the end is not reported. -/
theorem received_eq_attempted_queue_of_two :
    ∃ w₀ : World Nat, make { feed.ingressCapacity := 2 } = .ok w₀ ∧
      let before : List (WorldRequest Nat) := [.perform (.create 7 (.ofDot ⟨0, 0⟩))]
      let early : List (WorldRequest Nat) :=
        [.perform (.create 7 (.ofDot ⟨0, 1⟩)), .objectAt ⟨0, 0⟩]
      let late : List (WorldRequest Nat) :=
        [.objectsAt ⟨[⟨0, 0⟩, ⟨0, 1⟩]⟩, .receive 0 1, .stats,
          .perform (.delete 7 (.ofDot ⟨0, 0⟩))]
      let calls := early ++ .start 0 :: (late ++ [.close, .perform (.create 8 (.ofDot ⟨0, 0⟩))])
      let w₁ := w₀.run (before ++ [.watch 1 8])
      (w₁.log (calls ++ [.receive 0 9])).received 0 =
        [⟨.created, .object 7⟩, ⟨.error, .failure (.board .objectAlreadyRegistered)⟩,
          ⟨.checked, .object 7⟩, ⟨.deleted, .object 7⟩] := by
  have hmade : ∃ w₀ : World Nat, make { feed.ingressCapacity := 2 } = .ok w₀ := ⟨_, rfl⟩
  obtain ⟨w₀, hmake⟩ := hmade
  refine ⟨w₀, hmake, ?_⟩
  intro before early late calls w₁
  have hid : ((w₀.run before).step (.watch 1 8)).1 = .watching 0 := by
    obtain rfl := Except.ok.inj hmake
    rfl
  have h := received_eq_attempted hmake before early late
    [.close, .perform (.create 8 (.ofDot ⟨0, 0⟩))] 1 0 8 hid (by simp [before, early])
    (by simp [before, early, late]) (by simp [before, early, late]) (by simp [before, early, late])
    (.inr (.inl rfl)) (by simp [early, late])
  have hexpected : (w₀.log (before ++ .watch 1 8 :: early)).attempted.take 2 ++
      (((w₀.run (before ++ .watch 1 8 :: early)).step (.start 0)).2.log late).attempted =
        [⟨.created, .object 7⟩, ⟨.error, .failure (.board .objectAlreadyRegistered)⟩,
          ⟨.checked, .object 7⟩, ⟨.deleted, .object 7⟩] := by
    obtain rfl := Except.ok.inj hmake
    decide +kernel
  obtain ⟨s, -, hall, hreceived⟩ := h ((congrArg List.length hexpected).le.trans (by decide))
  have hlength := congrArg List.length (hall.trans hexpected)
  rw [List.length_append] at hlength
  have hfew : s.buffer.length ≤ 9 := (Nat.le_add_left _ _).trans (hlength.le.trans (by decide))
  exact (hreceived 9 hfew).trans hexpected

end ClaimGrid.World
