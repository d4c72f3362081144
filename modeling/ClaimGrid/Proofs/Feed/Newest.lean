import Mathlib.Data.List.Sort
import Mathlib.Data.List.Perm.Subperm
import ClaimGrid.Feed.Basic

/-!
# Outputs that keep the newest events

What a subscriber has of the events that were sent to it, told by places in the order of sending. It
has read the events at some places, going forward, and its output holds the last of those that came
after the place read last, as many as there is room for. An event that it has neither read nor can
read any more was pushed out by as many later ones as there is room for.

## Main definitions

* `unread`: how many events came after the place read last.
* `KeepsNewest`: what a subscriber has of the events sent to it.

## Main results

* `KeepsNewest.arrive`: more events arrive at the output.
* `KeepsNewest.read`: the oldest events are read out of the output.
* `KeepsNewest.length_le_of_room`: where there is room for everything, nothing is lost.
* `KeepsNewest.append_eq`: a subscriber that has lost no event has them all, in order.
-/

namespace ClaimGrid

variable {ε : Type}

/-! ### The last entries of a list -/

namespace Subscription

theorem length_newest (n : Nat) (l : List ε) : (newest n l).length = min n l.length := by
  rw [newest, List.length_drop]
  omega

theorem newest_suffix (n : Nat) (l : List ε) : newest n l <:+ l := List.drop_suffix _ _

theorem newest_of_length_le {n : Nat} {l : List ε} (h : l.length ≤ n) : newest n l = l := by
  rw [newest, Nat.sub_eq_zero_of_le h, List.drop_zero]

/-- What was cut off before is not missed after more entries have come. -/
theorem newest_newest_append (n : Nat) (l m : List ε) :
    newest n (newest n l ++ m) = newest n (l ++ m) := by
  have hcut : newest n l ++ m = (l ++ m).drop (l.length - n) := by
    rw [newest, List.drop_append_of_le_length (Nat.sub_le _ _)]
  have hcount : l.length - n + ((l ++ m).length - (l.length - n) - n) = (l ++ m).length - n := by
    rw [List.length_append]
    omega
  rw [hcut, newest, List.length_drop, List.drop_drop, hcount, newest]

end Subscription

/-! ### Places read and events waiting -/

/-- The number of events sent after the place that was read last. -/
def unread (sent : List ε) (places : List Nat) : Nat :=
  match places.getLast? with
  | none => sent.length
  | some p => sent.length - (p + 1)

/-- What a subscriber with room for `room` events has of the events sent to it: the events `got`
that it has read, which stand at `places`, and the events `waiting` in its output. -/
structure KeepsNewest (room : Nat) (sent got waiting : List ε) (places : List Nat) : Prop where
  /-- Reading goes forward and never comes back to a place. -/
  forward : places.Pairwise (· < ·)
  /-- What was read stands at the places. -/
  got_eq : got.map some = places.map (sent[·]?)
  /-- The output ends with the event sent last. -/
  suffix : waiting <:+ sent
  /-- The output holds what came after the place read last, as far as there is room. -/
  length_waiting : waiting.length = min room (unread sent places)
  /-- What is neither read nor waiting has been followed by as many events as there is room for. -/
  lost : ∀ p < sent.length, p ∉ places → p < sent.length - waiting.length → p + room < sent.length

namespace KeepsNewest

variable {room : Nat} {sent got waiting : List ε} {places : List Nat}

/-- Before anything is read, as long as there is room for everything. -/
theorem of_length_le (hroom : sent.length ≤ room) : KeepsNewest room sent [] sent [] where
  forward := .nil
  got_eq := rfl
  suffix := List.suffix_rfl
  length_waiting := (Nat.min_eq_right hroom).symm
  lost p _ _ hgone := by omega

variable (h : KeepsNewest room sent got waiting places)

include h in
theorem lt_of_mem {p : Nat} (hp : p ∈ places) : p < sent.length := by
  have hmem : sent[p]? ∈ got.map some := h.got_eq ▸ List.mem_map_of_mem hp
  obtain ⟨e, -, he⟩ := List.mem_map.1 hmem
  exact (List.getElem?_eq_some_iff.1 he.symm).1

include h in
theorem length_waiting_le : waiting.length ≤ room := h.length_waiting ▸ Nat.min_le_left _ _

include h in
/-- More events arrive. -/
theorem arrive (es : List ε) :
    KeepsNewest room (sent ++ es) got (Subscription.newest room (waiting ++ es)) places := by
  have hunread : unread (sent ++ es) places = unread sent places + es.length := by
    rw [unread, unread, List.length_append]
    cases hlast : places.getLast? with
    | none => rfl
    | some p =>
      have hp : p < sent.length := h.lt_of_mem (List.mem_of_getLast? hlast)
      dsimp only
      omega
  have hlength := h.length_waiting
  refine ⟨h.forward, ?_, ?_, ?_, ?_⟩
  · rw [h.got_eq]
    refine List.map_congr_left fun p hp => ?_
    exact (List.getElem?_append_left (h.lt_of_mem hp)).symm
  · obtain ⟨front, hfront⟩ := h.suffix
    refine (Subscription.newest_suffix _ _).trans ⟨front, ?_⟩
    rw [← List.append_assoc, hfront]
  · rw [Subscription.length_newest, hunread, List.length_append]
    omega
  · intro p hp hplaces hgone
    rw [Subscription.length_newest, List.length_append, List.length_append] at hgone
    rw [List.length_append] at hp ⊢
    -- lost already, or pushed out just now
    by_cases hbefore : p < sent.length - waiting.length
    · have hroom := h.lost p (by omega) hplaces hbefore
      omega
    · omega

include h in
/-- The places read lie before what is waiting. -/
theorem lt_of_mem_places {p : Nat} (hp : p ∈ places) : p < sent.length - waiting.length := by
  have hlength := h.length_waiting
  have hsent := h.lt_of_mem hp
  cases hlast : places.getLast? with
  | none =>
    rw [List.getLast?_eq_none_iff] at hlast
    exact absurd (hlast ▸ hp) List.not_mem_nil
  | some q =>
    rw [unread, hlast] at hlength
    have hq : q < sent.length := h.lt_of_mem (List.mem_of_getLast? hlast)
    have hpq : p ≤ q := by
      obtain ⟨front, rfl⟩ := List.getLast?_eq_some_iff.1 hlast
      rcases List.mem_append.1 hp with hfront | hend
      · exact Nat.le_of_lt ((List.pairwise_append.1 h.forward).2.2 p hfront q List.mem_cons_self)
      · exact Nat.le_of_eq (List.mem_singleton.1 hend)
    dsimp only at hlength
    omega

include h in
/-- What is waiting stands at the end. -/
theorem map_some_waiting (n : Nat) :
    (waiting.take n).map some =
      (List.range' (sent.length - waiting.length) (min n waiting.length)).map (sent[·]?) := by
  have hdrop : waiting = sent.drop (sent.length - waiting.length) :=
    List.suffix_iff_eq_drop.1 h.suffix
  refine List.ext_getElem (by simp) fun i hi hi' => ?_
  have hi'' : i < waiting.length := by
    rw [List.length_map, List.length_take] at hi
    omega
  have hget : waiting[i]? = sent[sent.length - waiting.length + i]? := by
    rw [← List.getElem?_drop, ← hdrop]
  rw [List.getElem_map, List.getElem_map, List.getElem_take, List.getElem_range', Nat.one_mul,
    ← hget, List.getElem?_eq_getElem hi'']

include h in
theorem unread_read (n : Nat) :
    min room (unread sent
      (places ++ List.range' (sent.length - waiting.length) (min n waiting.length))) =
      waiting.length - n := by
  have hle : waiting.length ≤ sent.length := h.suffix.length_le
  have hroom := h.length_waiting_le
  by_cases hnone : min n waiting.length = 0
  · rw [hnone, List.range'_zero, List.append_nil, ← h.length_waiting]
    omega
  · rw [unread, List.getLast?_append, List.getLast?_range', if_neg hnone]
    dsimp only [Option.some_or]
    omega

include h in
/-- The oldest events of the output are read. -/
theorem read (n : Nat) :
    KeepsNewest room sent (got ++ waiting.take n) (waiting.drop n)
      (places ++ List.range' (sent.length - waiting.length) (min n waiting.length)) where
  forward := by
    refine List.pairwise_append.2 ⟨h.forward, List.pairwise_lt_range', fun p hp q hq => ?_⟩
    have hpast := h.lt_of_mem_places hp
    have hnew := (List.mem_range'_1.1 hq).1
    omega
  got_eq := by rw [List.map_append, List.map_append, h.got_eq, h.map_some_waiting]
  suffix := (List.drop_suffix _ _).trans h.suffix
  length_waiting := by rw [h.unread_read, List.length_drop]
  lost p hp hplaces hgone := by
    rw [List.mem_append, not_or, List.mem_range'_1] at hplaces
    rw [List.length_drop] at hgone
    exact h.lost p hp hplaces.1 (by omega)

include h in
theorem length_got : got.length = places.length := by
  have hlength := congrArg List.length h.got_eq
  rwa [List.length_map, List.length_map] at hlength

include h in
/-- An output with room for everything loses nothing. -/
theorem length_le_of_room (hroom : sent.length ≤ room) :
    sent.length ≤ got.length + waiting.length := by
  have hread : List.range (sent.length - waiting.length) ⊆ places := fun p hp => by
    have hgone := List.mem_range.1 hp
    by_contra hplaces
    have hpushed := h.lost p (by omega) hplaces hgone
    omega
  have hcount := (List.nodup_range.subperm hread).length_le
  rw [List.length_range, ← h.length_got] at hcount
  omega

include h in
/-- If no event has been lost, the events read and the events waiting are all there are. -/
theorem append_eq (hall : sent.length ≤ got.length + waiting.length) : got ++ waiting = sent := by
  have hcount := h.length_got
  -- every place before the end is read, so the places are the numbers in order
  have hplaces : places = List.range (sent.length - waiting.length) := by
    have hsubset : places ⊆ List.range (sent.length - waiting.length) := fun p hp =>
      List.mem_range.2 (h.lt_of_mem_places hp)
    have hnodup : places.Nodup := h.forward.imp Nat.ne_of_lt
    have hperm := (hnodup.subperm hsubset).perm_of_length_le (by rw [List.length_range]; omega)
    exact hperm.eq_of_pairwise' h.forward List.pairwise_lt_range
  have htake : got = sent.take (sent.length - waiting.length) := by
    refine List.map_injective_iff.2 (Option.some_injective ε) ?_
    rw [h.got_eq, hplaces]
    refine List.ext_getElem (by simp) fun i hi hi' => ?_
    rw [List.length_map, List.length_range] at hi
    simp only [List.getElem_map, List.getElem_range, List.getElem_take]
    exact List.getElem?_eq_getElem (by omega)
  have hdrop : waiting = sent.drop (sent.length - waiting.length) :=
    List.suffix_iff_eq_drop.1 h.suffix
  calc got ++ waiting
      = sent.take (sent.length - waiting.length) ++ sent.drop (sent.length - waiting.length) := by
        rw [← htake, ← hdrop]
    _ = sent := List.take_append_drop _ _

end KeepsNewest

end ClaimGrid
