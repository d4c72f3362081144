import ClaimGrid.Proofs.Feed.Runs

/-!
# What every schedule delivers

Between publisher and subscriber an event passes three queues. The dispatcher takes it out of the
ingress queue and puts it into the relay queue of each subscription, and the relay of the
subscription puts it into the output, where it may have to push the oldest event out. Dispatcher and
relays work on their own, so that events of one publisher may be anywhere on the way at the same
time. All the same, at rest the output of every subscription holds the newest events of those sent
to it, as long as no relay queue was full when the dispatcher came and no relay gave up.

## Main results

* `Hub.outputs_keep_newest`: every subscription of every run, from a hub just made.
-/

namespace ClaimGrid.Hub

variable {ε : Type} {h₀ : Hub ε} {c : FeedSettings}

/-- Take any run of a hub just made in which no event is lost: no relay queue is full when the
dispatcher comes, and no relay gives up. Let the hub be started in time. Then accepted events are
sent in the order of acceptance. Of those sent to a subscription, it has read some, going forward,
and its output holds the newest of those that came after the last one read, as many as there is room
for. Once the hub is closed or the signal of the subscription has fired, what is left in the output
is what can still be read, and reading past it finds the subscription disconnected. -/
theorem outputs_keep_newest (hmake : make c = .ok h₀) (pre post : List (Round ε)) (round : Round ε)
    (stop : SignalId) (capacity : Nat) (id : SubscriptionId)
    (hround : round.call = ⟨.subscribe stop capacity, .subscribed id⟩)
    (hrun : h₀.Runs (pre ++ [round] ++ post))
    (hin : FeedRequest.InTime (Round.requests (pre ++ [round] ++ post)))
    (hkept : .dropSubscription id ∉ Round.requests post) :
    let before := Round.log (pre ++ [round])
    let after := Round.log post
    let h := h₀.last (pre ++ [round] ++ post)
    (FeedLog.heard stop before after).Sublist (FeedLog.accepted (before ++ after)) ∧
    ∃ s places, h.subscription? id = some s ∧
      KeepsNewest (max capacity 1) (FeedLog.heard stop before after) (FeedLog.read id after)
        s.buffer places ∧
      (∀ n, (h.call (.receive id n)).1 = .received (some (s.buffer.take n,
        if n ≤ s.buffer.length then .satisfied
        else if FeedLog.reaches (before ++ after) stop then .drained else .disconnected))) ∧
      ((.close ∈ Round.requests (pre ++ post) ∨ .fire stop ∈ Round.requests (pre ++ post)) →
        ∀ more, h.Runs more →
          FeedRequest.InTime (Round.requests (pre ++ [round] ++ post ++ more)) →
          .dropSubscription id ∉ Round.requests more →
          ∃ s', (h.last more).subscription? id = some s' ∧
            FeedLog.read id (Round.log more) ++ s'.buffer = s.buffer ∧
            ∀ n, s'.buffer.length < n → ((h.last more).call (.receive id n)).1 =
              .received (some (s'.buffer, .disconnected))) := by
  intro before after h
  obtain ⟨f₀, hfeed⟩ := exists_feed_make hmake
  have hrequests : Round.requests (pre ++ [round]) =
      Round.requests pre ++ [.subscribe stop capacity] := by
    rw [Round.requests_append, Round.requests, Round.requests, List.map_singleton, hround]
  have hinBefore : FeedRequest.InTime (Round.requests (pre ++ [round])) := by
    rw [Round.requests_append] at hin
    exact hin.of_append
  have hrunBefore := (runs_append_iff.1 hrun).1
  obtain ⟨hbefore, -⟩ := hrunBefore.follows_of_inTime hmake hfeed hinBefore
  obtain ⟨hafter, hrest⟩ := hrun.follows_append_of_inTime hmake hfeed hin
  rw [← last_append] at hrest
  have hid := hrunBefore.answer_of_inTime hmake hfeed hinBefore
  rw [hround] at hid
  obtain ⟨hsublist, s, places, hfound, hkeeps, hanswer, hend⟩ := Feed.keepsNewest_log hfeed
    (Round.requests pre) (Round.requests post) stop capacity id hid hkept
  rw [← hrequests, ← hbefore, ← hafter] at hsublist hkeeps hanswer
  rw [← hrequests] at hfound hend
  refine ⟨hsublist, s, places, (hrest.subscription?_eq id).symm.trans hfound, hkeeps, fun n => ?_,
    fun hends more hmore hinMore hkeptMore => ?_⟩
  · exact (congrArg FeedAnswer.received (hrest.fst_receive id n)).trans (hanswer n)
  · rw [Round.requests_append] at hends
    obtain ⟨s', hfound', hread, hdisconnected⟩ := hend hends (Round.requests more) hkeptMore
    obtain ⟨hlog, hrest'⟩ := (runs_append_iff.2 ⟨hrun, hmore⟩).follows_append_of_inTime hmake hfeed
      hinMore
    rw [Round.requests_append, Feed.run_append] at hlog hrest'
    rw [← hlog] at hread
    refine ⟨s', (hrest'.subscription?_eq id).symm.trans hfound', hread, fun n hn => ?_⟩
    exact (congrArg FeedAnswer.received (hrest'.fst_receive id n)).trans (hdisconnected n hn)

/-- A relay queue of one: the dispatcher hands out both events before the relay has taken up the
first one, and it is the newest that is lost. -/
example :
    let h₀ : Hub Nat :=
      ⟨{ relayCapacity := 1 }, rfl, .created, none, [], .empty 64 (by decide), [], []⟩
    let h := (h₀.last (h₀.rounds [.subscribe 1 1, .publish 7, .publish 8])).start 0
    let h' := (h.perform? .dispatch).bind (perform? · .dispatch)
    h'.map (fun h' => (h'.settle.subscription? 0).map (·.buffer)) = some (some [7]) := by
  decide +kernel

/-- A queue of two and an output of two: the third event finds the queue full, the first one is
read after the start, and the second one is pushed out by the last two. -/
theorem outputs_keep_newest_of_two :
    ∃ h₀ : Hub Nat, make { ingressCapacity := 2 } = .ok h₀ ∧
      let pre := h₀.rounds [.publish 10]
      let round :=
        ⟨⟨.subscribe 1 2, .subscribed 0⟩, ((h₀.last pre).callAndSettle (.subscribe 1 2)).2⟩
      let post := round.rest.rounds
        [.publish 11, .publish 12, .start 0, .receive 0 1, .publish 13, .publish 14, .close]
      let h := h₀.last (pre ++ [round] ++ post)
      let more := h.rounds [.receive 0 1]
      ∃ s places, h.subscription? 0 = some s ∧ s.buffer = [13, 14] ∧
        KeepsNewest 2 [10, 11, 13, 14] [10] s.buffer places ∧
        (h.call (.receive 0 1)).1 = .received (some (s.buffer.take 1, .satisfied)) ∧
        ∃ s', (h.last more).subscription? 0 = some s' ∧ [13] ++ s'.buffer = s.buffer ∧
          ((h.last more).call (.receive 0 2)).1 = .received (some (s'.buffer, .disconnected)) := by
  refine ⟨⟨{ ingressCapacity := 2 }, rfl, .created, none, [], .empty 2 Nat.two_pos, [], []⟩,
    rfl, ?_⟩
  intro pre round post h more
  have hpre : Round.requests pre = [.publish 10] := requests_rounds _ _
  have hpost : Round.requests post = _ := requests_rounds _ _
  have hmore : Round.requests more = _ := requests_rounds _ _
  have hrequests : Round.requests (pre ++ [round] ++ post) = [.publish 10, .subscribe 1 2,
      .publish 11, .publish 12, .start 0, .receive 0 1, .publish 13, .publish 14, .close] := by
    rw [Round.requests_append, Round.requests_append, hpre, hpost]
    rfl
  have hround : Runs (last _ pre) [round] := .cons (.subscribe 1 2) (settles_settle _) (.nil _)
  have hrun : Runs _ (pre ++ [round] ++ post) :=
    runs_append_iff.2 ⟨runs_append_iff.2 ⟨runs_rounds _ _, hround⟩, runs_rounds _ _⟩
  obtain ⟨-, s, places, hs, hkeeps, hread, hend⟩ :=
    outputs_keep_newest (c := { ingressCapacity := 2 }) rfl pre post round 1 2 0 rfl hrun
      (.of_no_fire (by rw [hrequests]; simp)) (by rw [hpost]; simp)
  obtain ⟨s', hs', hrest, hdisconnected⟩ := hend
    (.inl (by rw [Round.requests_append, hpost]; simp)) more (runs_rounds _ _)
    (.of_no_fire (by rw [Round.requests_append, hrequests, hmore]; simp)) (by rw [hmore]; simp)
  have hfound : h.subscription? 0 = some ⟨0, 1, 2, [13, 14], false⟩ := by decide +kernel
  have hfound' : (h.last more).subscription? 0 = some ⟨0, 1, 2, [14], false⟩ := by decide +kernel
  have hheard : FeedLog.heard 1 (Round.log (pre ++ [round])) (Round.log post) =
      [10, 11, 13, 14] := by decide +kernel
  have hgot : FeedLog.read 0 (Round.log post) = [10] := by decide +kernel
  have hgot' : FeedLog.read 0 (Round.log more) = [13] := by decide +kernel
  have hbuffer : s.buffer = [13, 14] :=
    congrArg Subscription.buffer (Option.some.inj (hs.symm.trans hfound))
  have hbuffer' : s'.buffer = [14] :=
    congrArg Subscription.buffer (Option.some.inj (hs'.symm.trans hfound'))
  rw [hheard, hgot] at hkeeps
  rw [hgot'] at hrest
  refine ⟨s, places, hs, hbuffer, hkeeps, ?_, s', hs', hrest, ?_⟩
  · have hlong : 1 ≤ s.buffer.length := by
      rw [hbuffer]
      decide
    have hnext := hread 1
    rwa [if_pos hlong] at hnext
  · exact hdisconnected 2 (by rw [hbuffer']; decide)

end ClaimGrid.Hub
