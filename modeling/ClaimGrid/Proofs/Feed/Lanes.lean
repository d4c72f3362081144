import ClaimGrid.Feed.Lane
import ClaimGrid.Proofs.Feed.Newest

/-!
# What a lane makes of the events

The events handed to a lane leave it at the output in the order in which they came. As long as no
event is dropped on the way, those that have passed and those that are still on the lane are all
that were handed to it, and the output holds the newest of those that have passed: making room for
an event that is held back is the same as pushing the oldest event out. A relay that ends its work
leaves the output as it is.

## Main definitions

* `Lane.due`: the events on a lane, oldest first.
* `Lane.Conveys`: what a lane has made of the events handed to it.

## Main results

* `Lane.pass?_eq_some`, `Lane.sample?_eq_some`: what the relay does.
* `Lane.Conveys.enter`, `Lane.Conveys.pass`, `Lane.Conveys.sample`, `Lane.Conveys.quit`: one step.
-/

namespace ClaimGrid

variable {ε : Type}

/-! ### Bounded queues -/

namespace BoundedQueue

variable {c c' : BoundedQueue ε} {e : ε}

theorem trySend?_eq_some (h : c.trySend? e = some c') :
    c'.capacity = c.capacity ∧ c'.items = c.items ++ [e] := by
  rw [trySend?] at h
  split at h
  · obtain rfl := Option.some.inj h
    exact ⟨rfl, rfl⟩
  · cases h

theorem isFull_iff (c : BoundedQueue ε) : c.isFull = true ↔ ¬c.items.length < c.capacity := by
  have hle := c.length_le
  rw [isFull, decide_eq_true_eq]
  omega

theorem trySend?_eq_none_iff : c.trySend? e = none ↔ c.isFull = true := by
  rw [trySend?, isFull_iff]
  split <;> simp [*]

theorem exists_trySend?_of_not_isFull (h : c.isFull = false) (e : ε) :
    ∃ c', c.trySend? e = some c' := by
  cases hsend : c.trySend? e with
  | some c' => exact ⟨c', rfl⟩
  | none =>
    rw [trySend?_eq_none_iff.1 hsend] at h
    cases h

theorem isFull_skip_one (c : BoundedQueue ε) : (c.skip 1).isFull = false := by
  have hle := c.length_le
  have hpos := c.capacity_pos
  rw [isFull, skip, decide_eq_false_iff_not, List.length_drop]
  dsimp only
  omega

theorem tryReceive?_eq_some (h : c.tryReceive? = some (e, c')) :
    c'.capacity = c.capacity ∧ c.items = e :: c'.items := by
  rw [tryReceive?, Option.map_eq_some_iff] at h
  obtain ⟨e', he, hpair⟩ := h
  obtain ⟨rfl, rfl⟩ := Prod.mk.inj hpair
  obtain ⟨rest, hitems⟩ := List.head?_eq_some_iff.1 he
  refine ⟨rfl, ?_⟩
  change c.items = e' :: c.items.drop 1
  rw [hitems]
  rfl

theorem tryReceive?_eq_none_iff : c.tryReceive? = none ↔ c.items = [] := by
  rw [tryReceive?, Option.map_eq_none_iff, List.head?_eq_none_iff]

/-- A queue that takes in an item keeps the newest, as there was room for one more. -/
theorem items_eq_newest (h : c.trySend? e = some c') :
    c'.items = Subscription.newest c'.capacity (c.items ++ [e]) := by
  have hle := c'.length_le
  rw [(trySend?_eq_some h).2] at hle
  rw [(trySend?_eq_some h).2, Subscription.newest_of_length_le hle]

/-- To make room in a full queue is to push its oldest item out. -/
theorem items_eq_newest_of_skip (hfull : c.isFull = true) (h : (c.skip 1).trySend? e = some c') :
    c'.capacity = c.capacity ∧ c'.items = Subscription.newest c.capacity (c.items ++ [e]) := by
  obtain ⟨hcapacity, hitems⟩ := trySend?_eq_some h
  refine ⟨hcapacity, ?_⟩
  rw [isFull, decide_eq_true_eq] at hfull
  have hpos := c.capacity_pos
  have hone : c.items.length + 1 - c.capacity = 1 := by omega
  rw [hitems, skip, Subscription.newest, List.length_append, List.length_singleton, hone,
    List.drop_append_of_le_length (by omega)]

end BoundedQueue

/-! ### What the relay does -/

namespace Lane

variable {l l' l'' : Lane ε} {sent : List ε} {e : ε}

/-- The events on a lane, oldest first. -/
def due (l : Lane ε) : List ε := l.held.toList ++ l.relay.items

/-- The next event goes into the output, or is held back because the output is full. -/
theorem pass?_eq_some (h : l.pass? = some l') :
    l.working = true ∧ l.held = none ∧ ∃ e relay, l.relay.tryReceive? = some (e, relay) ∧
      ((∃ output, l.output.trySend? e = some output ∧
          l' = { l with relay := relay, output := output }) ∨
        l.output.isFull = true ∧ l' = { l with relay := relay, held := some e }) := by
  rw [pass?] at h
  split at h
  · rename_i hready
    rw [Bool.and_eq_true, Option.isNone_iff_eq_none] at hready
    obtain ⟨⟨e, relay⟩, hreceive, hl'⟩ := Option.map_eq_some_iff.1 h
    refine ⟨hready.1, hready.2, e, relay, hreceive, ?_⟩
    cases hsend : l.output.trySend? e with
    | some output => exact .inl ⟨output, rfl, by simpa only [hsend] using hl'.symm⟩
    | none =>
      refine .inr ⟨BoundedQueue.trySend?_eq_none_iff.1 hsend, ?_⟩
      simpa only [hsend] using hl'.symm
  · cases h

/-- The event that is held back goes into the output, which keeps the newest. -/
theorem sample?_eq_some (h : l.sample? = some l') :
    l.working = true ∧ ∃ e output, l.held = some e ∧ output.capacity = l.output.capacity ∧
      output.items = Subscription.newest l.output.capacity (l.output.items ++ [e]) ∧
      l' = { l with output := output, held := none } := by
  rw [sample?] at h
  split at h
  · rename_i hworking
    obtain ⟨e, he, hl'⟩ := Option.map_eq_some_iff.1 h
    cases hfull : l.output.isFull with
    | true =>
      obtain ⟨output, hsend⟩ :=
        BoundedQueue.exists_trySend?_of_not_isFull l.output.isFull_skip_one e
      obtain ⟨hcapacity, hitems⟩ := BoundedQueue.items_eq_newest_of_skip hfull hsend
      refine ⟨hworking, e, output, he, hcapacity, hitems, ?_⟩
      simpa only [hfull, if_true, hsend] using hl'.symm
    | false =>
      obtain ⟨output, hsend⟩ := BoundedQueue.exists_trySend?_of_not_isFull hfull e
      have hcapacity := (BoundedQueue.trySend?_eq_some hsend).1
      refine ⟨hworking, e, output, he, hcapacity, ?_, ?_⟩
      · rw [BoundedQueue.items_eq_newest hsend, hcapacity]
      · simpa only [hfull, Bool.false_eq_true, if_false, hsend] using hl'.symm
  · cases h

/-- The event that is held back is lost. -/
theorem expire?_eq_some (h : l.expire? = some l') :
    l.working = true ∧ ∃ e, l.held = some e ∧ l' = { l with held := none } := by
  rw [expire?] at h
  split at h
  · rename_i hworking
    obtain ⟨e, he, hl'⟩ := Option.map_eq_some_iff.1 h
    exact ⟨hworking, e, he, hl'.symm⟩
  · cases h

/-- Handing an event to a lane changes what is in its relay queue only. -/
theorem exists_enter_eq (l : Lane ε) (e : ε) :
    ∃ relay, relay.capacity = l.relay.capacity ∧ l.enter e = { l with relay := relay } := by
  rw [enter]
  split
  · split
    · rename_i relay hsend
      exact ⟨relay, (BoundedQueue.trySend?_eq_some hsend).1, rfl⟩
    · exact ⟨l.relay, rfl, rfl⟩
  · exact ⟨l.relay, rfl, rfl⟩

theorem working_enter (l : Lane ε) (e : ε) : (l.enter e).working = l.working := by
  obtain ⟨relay, -, henter⟩ := l.exists_enter_eq e
  rw [henter]

theorem due_enter (hworking : l.working = true) (hroom : l.relay.isFull = false) (e : ε) :
    (l.enter e).due = l.due ++ [e] := by
  obtain ⟨relay, hsend⟩ := BoundedQueue.exists_trySend?_of_not_isFull hroom e
  rw [enter, if_pos hworking, hsend]
  dsimp only
  rw [due, due, (BoundedQueue.trySend?_eq_some hsend).2, List.append_assoc]

/-- A relay at work that can neither pass on an event nor make room for one has nothing to do. -/
theorem due_eq_nil_of_eq_none (hworking : l.working = true) (hpass : l.pass? = none)
    (hsample : l.sample? = none) : l.due = [] := by
  have hheld : l.held = none := by
    rwa [sample?, if_pos hworking, Option.map_eq_none_iff] at hsample
  rw [pass?, hworking, hheld] at hpass
  have hreceive := Option.map_eq_none_iff.1 hpass
  rw [due, hheld, BoundedQueue.tryReceive?_eq_none_iff.1 hreceive]
  rfl

/-- There is room on a lane on which no event is. -/
theorem isFull_relay_of_due_eq_nil (h : l.due = []) : l.relay.isFull = false := by
  rw [due, List.append_eq_nil_iff] at h
  rw [BoundedQueue.isFull, h.2, decide_eq_false_iff_not, List.length_nil]
  exact Nat.ne_of_lt l.relay.capacity_pos

/-! ### What a lane has made of the events -/

/-- What a lane, idle at first, has made of the events handed to it since: those that have passed
are in the output, as far as there is room, and the others are on the lane as long as the relay is
at work. -/
structure Conveys (sent : List ε) (l l' : Lane ε) : Prop where
  stop_eq : l'.stop = l.stop
  abandoned_eq : l'.abandoned = l.abandoned
  capacity_eq : l'.output.capacity = l.output.capacity
  working_of : l'.working = true → l.working = true
  passed : ∃ passed rest, sent = passed ++ rest ∧
    l'.output.items = Subscription.newest l.output.capacity (l.output.items ++ passed) ∧
    (l'.working = true → l'.due = rest) ∧ (l.working = false → passed = [])

namespace Conveys

/-- Nothing was handed to an idle lane yet. -/
theorem nil (h : l.working = true → l.due = []) : Conveys [] l l := by
  refine ⟨rfl, rfl, rfl, id, [], [], rfl, ?_, h, fun _ => rfl⟩
  rw [List.append_nil, Subscription.newest_of_length_le l.output.length_le]

variable (h : Conveys sent l l')

include h in
/-- An event that is handed to a lane with room stays on the lane. -/
theorem enter (hroom : l'.working = true → l'.relay.isFull = false) (e : ε) :
    Conveys (sent ++ [e]) l (l'.enter e) := by
  obtain ⟨relay, -, henter⟩ := l'.exists_enter_eq e
  obtain ⟨passed, rest, hsent, hitems, hdue, hidle⟩ := h.passed
  have hdue' (hworking : l'.working = true) : (l'.enter e).due = rest ++ [e] := by
    rw [due_enter hworking (hroom hworking), hdue hworking]
  rw [henter] at hdue' ⊢
  refine ⟨h.stop_eq, h.abandoned_eq, h.capacity_eq, h.working_of, passed, rest ++ [e], ?_, hitems,
    hdue', hidle⟩
  rw [hsent, List.append_assoc]

include h in
/-- An event is not handed to a lane whose relay has ended its work. -/
theorem of_not_working (hworking : l'.working = false) (e : ε) : Conveys (sent ++ [e]) l l' := by
  obtain ⟨passed, rest, hsent, hitems, -, hidle⟩ := h.passed
  refine ⟨h.stop_eq, h.abandoned_eq, h.capacity_eq, h.working_of, passed, rest ++ [e], ?_, hitems,
    fun htrue => ?_, hidle⟩
  · rw [hsent, List.append_assoc]
  · rw [hworking] at htrue
    cases htrue

include h in
/-- The oldest event of the lane goes into the output. -/
theorem advance {e : ε} {output : BoundedQueue ε} (hworking : l'.working = true)
    (hdue : l'.due = e :: l''.due) (hcapacity : output.capacity = l'.output.capacity)
    (hitems : output.items = Subscription.newest l'.output.capacity (l'.output.items ++ [e]))
    (hstop : l''.stop = l'.stop) (habandoned : l''.abandoned = l'.abandoned)
    (houtput : l''.output = output) : Conveys sent l l'' := by
  obtain ⟨passed, rest, hsent, hbefore, hrest, -⟩ := h.passed
  have hwas : l.working = true := h.working_of hworking
  refine ⟨hstop.trans h.stop_eq, habandoned.trans h.abandoned_eq, ?_, fun _ => hwas,
    passed ++ [e], l''.due, ?_, ?_, fun _ => rfl, fun hidle => ?_⟩
  · rw [houtput, hcapacity, h.capacity_eq]
  · rw [hsent, ← hrest hworking, hdue, List.append_assoc, List.singleton_append]
  · rw [houtput, hitems, h.capacity_eq, hbefore, Subscription.newest_newest_append,
      List.append_assoc]
  · rw [hwas] at hidle
    cases hidle

include h in
theorem pass (hpass : l'.pass? = some l'') : Conveys sent l l'' := by
  obtain ⟨hworking, hheld, e, relay, hreceive, ⟨output, hsend, rfl⟩ | ⟨-, rfl⟩⟩ :=
    pass?_eq_some hpass
  · have hitems := BoundedQueue.items_eq_newest hsend
    have hcapacity := (BoundedQueue.trySend?_eq_some hsend).1
    rw [hcapacity] at hitems
    refine h.advance hworking ?_ hcapacity hitems rfl rfl rfl
    rw [due, due, hheld, (BoundedQueue.tryReceive?_eq_some hreceive).2]
    rfl
  · obtain ⟨passed, rest, hsent, hitems, hdue, hidle⟩ := h.passed
    refine ⟨h.stop_eq, h.abandoned_eq, h.capacity_eq, h.working_of, passed, rest, hsent, hitems,
      fun _ => ?_, hidle⟩
    rw [← hdue hworking, due, due, hheld, (BoundedQueue.tryReceive?_eq_some hreceive).2]
    rfl

include h in
theorem sample (hsample : l'.sample? = some l'') : Conveys sent l l'' := by
  obtain ⟨hworking, e, output, hheld, hcapacity, hitems, rfl⟩ := sample?_eq_some hsample
  refine h.advance hworking ?_ hcapacity hitems rfl rfl rfl
  rw [due, due, hheld]
  rfl

include h in
theorem quit : Conveys sent l l'.quit := by
  obtain ⟨passed, rest, hsent, hitems, -, hidle⟩ := h.passed
  exact ⟨h.stop_eq, h.abandoned_eq, h.capacity_eq, nofun, passed, rest, hsent, hitems, nofun, hidle⟩

end Conveys

end Lane

end ClaimGrid
