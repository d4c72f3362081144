import Mathlib.Data.List.Induction
import ClaimGrid.Signal.Line

/-!
# Signals that fire together

Every signal has one root: it descends, through any number of copies, from the handle or from a
signal that was made to be silent. The requests alone say what is reported. The descendants of the
handle fire together, from the first time on that the line is stopped or the handle is dropped, and
all others never do.

A handle and its signals do not look at the same thing. The handle looks whether it still holds the
sender, the signals whether the channel has one. They agree because no other sender is ever made,
and this is what every request preserves.

## Main definitions

* `SignalRoot`, `StopRequest.Descends`: where the signals come from that a list of requests makes.
* `StopRequest.Cut`: requests that stop the line or drop the handle.
* `StopLine.Owned`: the handle owns the only sender.
* `StopLine.Reports`: what the signals and the handle report.

## Main results

* `StopLine.Owned.step`, `StopLine.owned_run`: ownership after a request, and after all of them.
* `StopLine.descends_iff`: where a signal listens tells its root.
* `StopLine.fired_iff`, `StopLine.waits_iff`: when a signal has fired, and when waiting for it does
  not end in vain.
* `StopLine.signals_fire_together`: every list of requests.
-/

namespace ClaimGrid

/-- Where a signal and its copies come from. -/
inductive SignalRoot where
  | handle
  | never

/-- Where the signals of a root listen. -/
def SignalRoot.receiver : SignalRoot → Receiver
  | handle => .line
  | never => .never

theorem SignalRoot.receiver_injective : Function.Injective receiver
  | .handle, .handle, _ | .never, .never, _ => rfl

namespace StopRequest

/-- The requests made a signal of the given number, and it descends from the given root. A new
signal gets the number of those made before; only a handle that was not dropped can make one. -/
inductive Descends : List StopRequest → SignalRoot → Nat → Prop where
  | first : Descends [] .handle 0
  | older {rs : List StopRequest} {root : SignalRoot} {i : Nat} (h : Descends rs root i)
      (r : StopRequest) : Descends (rs ++ [r]) root i
  | signal {rs : List StopRequest} (h : .drop ∉ rs) :
      Descends (rs ++ [.signal]) .handle (StopLine.new.run rs).signals.length
  | copy {rs : List StopRequest} {root : SignalRoot} {i : Nat} (h : Descends rs root i) :
      Descends (rs ++ [.copy i]) root (StopLine.new.run rs).signals.length
  | never (rs : List StopRequest) :
      Descends (rs ++ [.never]) .never (StopLine.new.run rs).signals.length

/-- Requests that stop the line or drop the handle. -/
def Cut (rs : List StopRequest) : Prop := .stop ∈ rs ∨ .drop ∈ rs

theorem cut_append {rs during : List StopRequest} : Cut (rs ++ during) ↔ Cut rs ∨ Cut during := by
  rw [Cut, List.mem_append, List.mem_append, Cut, Cut, or_or_or_comm]

end StopRequest

/-! ### Receivers -/

theorem Receiver.tryReceive_eq_disconnected_iff {r : Receiver} {c : Channel} :
    r.tryReceive c = .disconnected ↔ r = .line ∧ c.senders = 0 := by
  cases r with
  | line =>
    rw [tryReceive]
    split
    · rename_i h
      exact iff_of_true rfl ⟨rfl, h⟩
    · rename_i h
      exact iff_of_false nofun fun hline => h hline.2
  | never => exact iff_of_false nofun nofun

/-- A receiver that waits is told as soon as its channel is disconnected. -/
theorem Receiver.receiveWithin_eq_disconnected_iff {r : Receiver} {cs : List Channel} :
    r.receiveWithin cs = .disconnected ↔ ∃ c ∈ cs, r.tryReceive c = .disconnected := by
  induction cs with
  | nil => exact iff_of_false nofun (by rintro ⟨c, hc, -⟩; cases hc)
  | cons c cs ih =>
    simp only [receiveWithin, List.mem_cons, exists_eq_or_imp]
    cases hnow : r.tryReceive c with
    | disconnected => exact iff_of_true rfl (.inl rfl)
    | empty => exact ih.trans (or_iff_right nofun).symm

theorem StopSignal.isStopped_iff {g : StopSignal} {c : Channel} :
    g.isStopped c = true ↔ g.receiver = .line ∧ c.senders = 0 := by
  rw [isStopped, beq_iff_eq, Receiver.tryReceive_eq_disconnected_iff]

theorem StopSignal.waits_iff {g : StopSignal} {cs : List Channel} :
    g.waits cs = true ↔ g.receiver = .line ∧ ∃ c ∈ cs, c.senders = 0 := by
  simp only [waits, beq_iff_eq, Receiver.receiveWithin_eq_disconnected_iff,
    Receiver.tryReceive_eq_disconnected_iff]
  exact ⟨fun ⟨c, hc, hline, hzero⟩ => ⟨hline, c, hc, hzero⟩,
    fun ⟨hline, c, hc, hzero⟩ => ⟨c, hc, hline, hzero⟩⟩

namespace StopLine

open StopRequest

variable {s s' : StopLine} {rs during : List StopRequest} {root : SignalRoot} {i : Nat}

/-! ### The sender -/

/-- After a list of requests, the handle owns the only sender: it is there until it is dropped, it
holds the sender until it is stopped, and no other sender is left. -/
structure Owned (rs : List StopRequest) (s : StopLine) : Prop where
  handle_eq_none_iff : s.handle = none ↔ .drop ∈ rs
  sender_eq_none_iff : ∀ h ∈ s.handle, (h.sender = none ↔ .stop ∈ rs)
  receiver_eq : ∀ h ∈ s.handle, h.signal.receiver = .line
  senders_eq : s.channel.senders = (s.handle.bind (·.sender)).toList.length

theorem owned_new : Owned [] new where
  handle_eq_none_iff := iff_of_false nofun List.not_mem_nil
  sender_eq_none_iff := by
    rintro h ⟨⟩
    exact iff_of_false nofun List.not_mem_nil
  receiver_eq := by
    rintro h ⟨⟩
    rfl
  senders_eq := rfl

/-- When the owner of the only sender drops it, no sender is left. -/
theorem senders_dropSender {c : Channel} {o : Option Sender} (h : c.senders = o.toList.length) :
    (c.dropSender o).senders = 0 := by
  cases o with
  | none => exact h
  | some sender =>
    cases sender
    rw [Channel.dropSender, h]
    rfl

/-- A handle that is there was not dropped. -/
theorem Owned.drop_notMem {owner : StopHandle} (h : s.Owned rs) (hs : s.handle = some owner) :
    .drop ∉ rs := fun hdrop => by
  rw [h.handle_eq_none_iff.2 hdrop] at hs
  cases hs

theorem stop_of_dropped (h : s.handle = none) : s.stop = s := by
  rw [stop, h]

theorem stop_of_handle {owner : StopHandle} (h : s.handle = some owner) :
    s.stop =
      { s with
        channel := s.channel.dropSender owner.sender
        handle := some { owner with sender := none } } := by
  rw [stop, h]

theorem drop_of_dropped (h : s.handle = none) : s.drop = s := by
  rw [drop, h]

theorem drop_of_handle {owner : StopHandle} (h : s.handle = some owner) :
    s.drop = { s with channel := s.channel.dropSender owner.sender, handle := none } := by
  rw [drop, h]

theorem mem_concat_of_ne {r q : StopRequest} (h : q ≠ r) : q ∈ rs ++ [r] ↔ q ∈ rs := by
  rw [List.mem_append, List.mem_singleton, or_iff_left h]

/-- A second stop finds no sender in the handle. -/
theorem stop_of_stopped {owner : StopHandle} (h : s.handle = some owner)
    (hsender : owner.sender = none) : s.stop = s := by
  obtain ⟨channel, handle, signals⟩ := s
  obtain ⟨sender, signal⟩ := owner
  obtain rfl : handle = _ := h
  obtain rfl : sender = none := hsender
  rfl

/-- Requests that neither stop nor drop leave the handle and its sender alone. -/
theorem Owned.of_makes (h : s.Owned rs) {r : StopRequest} (hstop : .stop ≠ r) (hdrop : .drop ≠ r)
    (hhandle : s'.handle = s.handle) (hchannel : s'.channel = s.channel) :
    s'.Owned (rs ++ [r]) where
  handle_eq_none_iff := by rw [hhandle, h.handle_eq_none_iff, mem_concat_of_ne hdrop]
  sender_eq_none_iff owner howner := by
    rw [h.sender_eq_none_iff owner (hhandle ▸ howner), mem_concat_of_ne hstop]
  receiver_eq owner howner := h.receiver_eq owner (hhandle ▸ howner)
  senders_eq := by rw [hhandle, hchannel, h.senders_eq]

theorem Owned.stop (h : s.Owned rs) : s.stop.Owned (rs ++ [.stop]) := by
  have hdrop : .drop ∈ rs ++ [.stop] ↔ .drop ∈ rs := mem_concat_of_ne nofun
  cases hs : s.handle with
  | none =>
    rw [stop_of_dropped hs]
    exact {
      handle_eq_none_iff := h.handle_eq_none_iff.trans hdrop.symm
      sender_eq_none_iff := by
        rw [hs]
        nofun
      receiver_eq := h.receiver_eq
      senders_eq := h.senders_eq }
  | some owner =>
    rw [stop_of_handle hs]
    refine ⟨iff_of_false nofun (mt hdrop.1 (h.drop_notMem hs)), ?_, ?_, senders_dropSender ?_⟩
    · rintro _ ⟨⟩
      exact iff_of_true rfl (List.mem_append_right rs List.mem_cons_self)
    · rintro _ ⟨⟩
      exact h.receiver_eq owner hs
    · rw [h.senders_eq, hs, Option.bind_some]

theorem Owned.drop (h : s.Owned rs) : s.drop.Owned (rs ++ [.drop]) := by
  have hdrop : .drop ∈ rs ++ [.drop] := List.mem_append_right rs List.mem_cons_self
  cases hs : s.handle with
  | none =>
    rw [drop_of_dropped hs]
    refine ⟨iff_of_true hs hdrop, ?_, h.receiver_eq, h.senders_eq⟩
    rw [hs]
    nofun
  | some owner =>
    rw [drop_of_handle hs]
    refine ⟨iff_of_true rfl hdrop, nofun, nofun, senders_dropSender ?_⟩
    rw [h.senders_eq, hs, Option.bind_some]

/-- Every request keeps it so that nobody but the handle owns a sender. -/
theorem Owned.step (h : s.Owned rs) (r : StopRequest) : (s.step r).Owned (rs ++ [r]) := by
  cases r with
  | stop => exact h.stop
  | drop => exact h.drop
  | signal | copy i | never => exact h.of_makes nofun nofun rfl rfl

theorem run_append (s : StopLine) (rs more : List StopRequest) :
    s.run (rs ++ more) = (s.run rs).run more :=
  List.foldl_append

theorem run_concat (s : StopLine) (rs : List StopRequest) (r : StopRequest) :
    s.run (rs ++ [r]) = (s.run rs).step r :=
  s.run_append rs [r]

theorem owned_run (rs : List StopRequest) : (new.run rs).Owned rs := by
  induction rs using List.reverseRecOn with
  | nil => exact owned_new
  | append_singleton rs r ih =>
    rw [run_concat]
    exact ih.step r

/-- The channel has lost its sender once the line was stopped or the handle was dropped. -/
theorem Owned.senders_eq_zero_iff (h : s.Owned rs) : s.channel.senders = 0 ↔ Cut rs := by
  rw [h.senders_eq, Cut, ← h.handle_eq_none_iff]
  cases hs : s.handle with
  | none => exact iff_of_true rfl (.inr rfl)
  | some owner =>
    rw [Option.bind_some, ← h.sender_eq_none_iff owner hs, or_iff_left nofun]
    cases owner.sender with
    | none => exact iff_of_true rfl rfl
    | some sender => exact iff_of_false nofun nofun

/-- What the handle reports, unless it was dropped. -/
theorem Owned.stopped?_eq (h : s.Owned rs) :
    s.stopped? = if .drop ∈ rs then none else some (decide (.stop ∈ rs)) := by
  cases hs : s.handle with
  | none => rw [stopped?, hs, if_pos (h.handle_eq_none_iff.1 hs), Option.map_none]
  | some owner =>
    have hstopped : owner.isStopped = decide (.stop ∈ rs) := by
      rw [StopHandle.isStopped, Bool.eq_iff_iff, Option.isNone_iff_eq_none, decide_eq_true_iff,
        h.sender_eq_none_iff owner hs]
    rw [stopped?, hs, if_neg (h.drop_notMem hs), Option.map_some, hstopped]

/-- A line that was cut is not changed by stopping it. -/
theorem Owned.stop_eq_self (h : s.Owned rs) (hcut : Cut rs) : s.stop = s := by
  cases hs : s.handle with
  | none => exact stop_of_dropped hs
  | some owner =>
    rcases hcut with hstop | hdrop
    · exact stop_of_stopped hs ((h.sender_eq_none_iff owner hs).2 hstop)
    · exact absurd hdrop (h.drop_notMem hs)

/-! ### Roots -/

/-- The signal that a request makes. -/
def made? (s : StopLine) : StopRequest → Option StopSignal
  | .stop | .drop => none
  | .signal => s.handle.map (·.signal)
  | .copy i => s.signals[i]?
  | .never => some .never

/-- No request changes a signal, and each makes one at most. -/
theorem signals_step (s : StopLine) (r : StopRequest) :
    (s.step r).signals = s.signals ++ (s.made? r).toList := by
  have hstop : s.stop.signals = s.signals := by
    rw [stop]
    split <;> rfl
  have hdrop : s.drop.signals = s.signals := by
    rw [drop]
    split <;> rfl
  cases r with
  | stop => exact hstop.trans (List.append_nil _).symm
  | drop => exact hdrop.trans (List.append_nil _).symm
  | signal | copy i | never => rfl

/-- The signals after a request are those before, and the new one. -/
theorem getElem?_signals_step {g : StopSignal} {r : StopRequest} :
    (s.step r).signals[i]? = some g ↔
      s.signals[i]? = some g ∨ i = s.signals.length ∧ s.made? r = some g := by
  rw [signals_step]
  rcases Nat.lt_or_ge i s.signals.length with hi | hi
  · rw [List.getElem?_append_left hi, or_iff_left fun h => Nat.ne_of_lt hi h.1]
  · rw [List.getElem?_append_right hi, List.getElem?_eq_none hi, or_iff_right nofun]
    cases s.made? r with
    | none => exact iff_of_false nofun nofun
    | some new =>
      rw [Option.toList_some, List.getElem?_singleton, Option.ite_none_right_eq_some]
      exact and_congr_left fun _ => by omega

/-- A handle makes signals on its line, as long as it is there. -/
theorem Owned.made?_signal (h : s.Owned rs) :
    s.made? .signal = if .drop ∈ rs then none else some ⟨.line⟩ := by
  cases hs : s.handle with
  | none => rw [made?, hs, if_pos (h.handle_eq_none_iff.1 hs), Option.map_none]
  | some owner =>
    rw [made?, hs, if_neg (h.drop_notMem hs), Option.map_some, ← h.receiver_eq owner hs]

/-- A new signal descends from the root where it listens, if the signals before it do. -/
theorem descends_of_made? {r : StopRequest}
    (hbefore : ∀ {j}, (new.run rs).signals[j]? = some ⟨root.receiver⟩ → Descends rs root j)
    (h : (new.run rs).made? r = some ⟨root.receiver⟩) :
    Descends (rs ++ [r]) root (new.run rs).signals.length := by
  cases r with
  | stop | drop => cases h
  | signal =>
    rw [(owned_run rs).made?_signal, Option.ite_none_left_eq_some] at h
    cases root with
    | handle => exact .signal h.1
    | never => cases h.2
  | copy j => exact .copy (hbefore h)
  | never =>
    cases root with
    | handle => cases h
    | never => exact .never rs

/-- Where a signal listens tells its root. -/
theorem descends_iff :
    Descends rs root i ↔ (new.run rs).signals[i]? = some ⟨root.receiver⟩ := by
  constructor
  · intro h
    induction h with
    | first => rfl
    | older _ r ih =>
      rw [run_concat, getElem?_signals_step]
      exact .inl ih
    | @signal rs hheld =>
      rw [run_concat, getElem?_signals_step, (owned_run rs).made?_signal, if_neg hheld]
      exact .inr ⟨rfl, rfl⟩
    | copy _ ih =>
      rw [run_concat, getElem?_signals_step]
      exact .inr ⟨rfl, ih⟩
    | never rs =>
      rw [run_concat, getElem?_signals_step]
      exact .inr ⟨rfl, rfl⟩
  · intro h
    induction rs using List.reverseRecOn generalizing i with
    | nil =>
      obtain ⟨rfl, hroot⟩ : i = 0 ∧ some (StopSignal.mk .line) = some ⟨root.receiver⟩ := by
        rwa [← Option.ite_none_right_eq_some, ← List.getElem?_singleton]
      cases root with
      | handle => exact .first
      | never => cases hroot
    | append_singleton rs r ih =>
      rw [run_concat, getElem?_signals_step] at h
      rcases h with hold | ⟨rfl, hnew⟩
      · exact .older (ih hold) r
      · exact descends_of_made? ih hnew

/-! ### What is reported -/

/-- What a signal is asked that can only be true of signals on the line. -/
theorem any_signals_iff {p : StopSignal → Bool} {q : Prop}
    (hp : ∀ g, p g = true ↔ g.receiver = .line ∧ q) :
    (new.run rs).signals[i]?.any p = true ↔ Descends rs .handle i ∧ q := by
  simp only [Option.any_eq_true, descends_iff, hp]
  constructor
  · rintro ⟨⟨receiver⟩, hi, rfl, hq⟩
    exact ⟨hi, hq⟩
  · rintro ⟨hi, hq⟩
    exact ⟨_, hi, rfl, hq⟩

/-- A descendant of the handle has fired once the line was stopped or the handle was dropped. -/
theorem fired_iff : (new.run rs).fired i = true ↔ Descends rs .handle i ∧ Cut rs := by
  rw [← (owned_run rs).senders_eq_zero_iff]
  exact any_signals_iff fun _ => StopSignal.isStopped_iff

/-- The channel is seen disconnected while requests are made if the line was cut before, or is cut
by one of them. -/
theorem Owned.exists_mem_channels_iff (h : s.Owned rs) :
    (∃ c ∈ s.channels during, c.senders = 0) ↔ Cut (rs ++ during) := by
  induction during generalizing s rs with
  | nil =>
    rw [List.append_nil, ← h.senders_eq_zero_iff]
    simp only [channels, List.mem_singleton, exists_eq_left]
  | cons r during ih =>
    have hlater := ih (h.step r)
    rw [List.append_assoc, List.singleton_append] at hlater
    simp only [channels, List.mem_cons, exists_eq_or_imp, hlater, h.senders_eq_zero_iff]
    exact or_iff_right_of_imp fun hcut => cut_append.2 (.inl hcut)

/-- Waiting for a descendant of the handle is not in vain if the line was cut before, or is cut
meanwhile. -/
theorem waits_iff :
    (new.run rs).waits i during = true ↔ Descends rs .handle i ∧ Cut (rs ++ during) := by
  rw [← (owned_run rs).exists_mem_channels_iff]
  exact any_signals_iff fun _ => StopSignal.waits_iff

theorem descends_append (h : Descends rs root i) (more : List StopRequest) :
    Descends (rs ++ more) root i := by
  induction more using List.reverseRecOn with
  | nil => rwa [List.append_nil]
  | append_singleton more r ih =>
    rw [← List.append_assoc]
    exact .older ih r

theorem descends_unique {root' : SignalRoot} (h : Descends rs root i)
    (h' : Descends rs root' i) : root = root' := by
  have heq := (descends_iff.1 h).symm.trans (descends_iff.1 h')
  exact SignalRoot.receiver_injective (StopSignal.mk.inj (Option.some.inj heq))

/-- Every signal descends from a root. -/
theorem lt_length_iff : i < (new.run rs).signals.length ↔ ∃ root, Descends rs root i := by
  simp only [descends_iff]
  constructor
  · intro hi
    obtain ⟨receiver, hg⟩ : ∃ receiver, (new.run rs).signals[i] = ⟨receiver⟩ := ⟨_, rfl⟩
    rw [List.getElem?_eq_getElem hi, hg]
    cases receiver with
    | line => exact ⟨.handle, rfl⟩
    | never => exact ⟨.never, rfl⟩
  · rintro ⟨root, hi⟩
    exact (List.getElem?_eq_some_iff.1 hi).1

/-- A signal with a silent root is silent. -/
theorem not_descends_handle_of_never (h : Descends rs .never i) : ¬Descends rs .handle i :=
  fun h' => nomatch descends_unique h h'

/-- What the handle reports is whether the line was cut. -/
theorem Owned.eq_true_iff_of_stopped? {b : Bool} (h : s.Owned rs) (hb : s.stopped? = some b) :
    b = true ↔ Cut rs := by
  rw [h.stopped?_eq, Option.ite_none_left_eq_some] at hb
  obtain ⟨hheld, hb⟩ := hb
  rw [← Option.some.inj hb, decide_eq_true_iff, Cut, or_iff_left hheld]

/-- What the signals and the handle of a line report after a list of requests. -/
structure Reports (rs : List StopRequest) (s : StopLine) : Prop where
  /-- Every signal descends from a root. -/
  lt_length_iff : ∀ i, i < s.signals.length ↔ ∃ root, Descends rs root i
  /-- No signal descends from two. -/
  root_unique : ∀ i root root', Descends rs root i → Descends rs root' i → root = root'
  /-- The descendants of the handle have fired once the line was stopped or the handle was dropped,
  and nothing else has. -/
  fired_iff : ∀ i, s.fired i = true ↔ Descends rs .handle i ∧ Cut rs
  /-- Waiting for a signal tells the same, and also what is done meanwhile. -/
  waits_iff : ∀ i during, s.waits i during = true ↔ Descends rs .handle i ∧ Cut (rs ++ during)
  /-- The handle, until it is dropped, reports whether the line was stopped. -/
  stopped?_eq : s.stopped? = if .drop ∈ rs then none else some (decide (.stop ∈ rs))
  /-- The descendants of the handle agree with each other. -/
  fired_eq : ∀ i j, Descends rs .handle i → Descends rs .handle j →
    s.fired i = s.fired j ∧ ∀ during, s.waits i during = s.waits j during
  /-- They agree with the handle, while there is one. -/
  fired_eq_stopped : ∀ b ∈ s.stopped?, ∀ i, Descends rs .handle i →
    s.fired i = b ∧ s.waits i [] = b
  /-- A signal that has fired has fired for good, whatever follows. -/
  fired_run : ∀ i, s.fired i = true → ∀ more,
    (s.run more).fired i = true ∧ ∀ during, (s.run more).waits i during = true
  /-- A line that was cut is not changed by stopping it again. -/
  step_stop : Cut rs → s.step .stop = s
  /-- A signal that was made to be silent is silent with all its copies, whatever follows. -/
  silent_run : ∀ i, Descends rs .never i → ∀ more,
    (s.run more).fired i = false ∧ ∀ during, (s.run more).waits i during = false

/-- After every list of requests, the descendants of the handle have fired together or not at all,
and for good. -/
theorem signals_fire_together (rs : List StopRequest) : (new.run rs).Reports rs where
  lt_length_iff _ := lt_length_iff
  root_unique _ _ _ := descends_unique
  fired_iff _ := fired_iff
  waits_iff _ _ := waits_iff
  stopped?_eq := (owned_run rs).stopped?_eq
  fired_eq i j hi hj := by
    refine ⟨?_, fun during => ?_⟩
    · rw [Bool.eq_iff_iff, fired_iff, fired_iff, and_iff_right hi, and_iff_right hj]
    · rw [Bool.eq_iff_iff, waits_iff, waits_iff, and_iff_right hi, and_iff_right hj]
  fired_eq_stopped b hb i hi := by
    have hcut := (owned_run rs).eq_true_iff_of_stopped? hb
    refine ⟨?_, ?_⟩
    · rw [Bool.eq_iff_iff, fired_iff, and_iff_right hi, hcut]
    · rw [Bool.eq_iff_iff, waits_iff, and_iff_right hi, hcut, List.append_nil]
  fired_run i hi more := by
    obtain ⟨hroot, hcut⟩ := fired_iff.1 hi
    have hroot' := descends_append hroot more
    have hcut' : Cut (rs ++ more) := cut_append.2 (.inl hcut)
    rw [← run_append]
    exact ⟨fired_iff.2 ⟨hroot', hcut'⟩,
      fun during => waits_iff.2 ⟨hroot', cut_append.2 (.inl hcut')⟩⟩
  step_stop := (owned_run rs).stop_eq_self
  silent_run i hi more := by
    have hother := not_descends_handle_of_never (descends_append hi more)
    rw [← run_append]
    exact ⟨Bool.eq_false_iff.2 fun h => hother (fired_iff.1 h).1,
      fun during => Bool.eq_false_iff.2 fun h => hother (waits_iff.1 h).1⟩

/-- Copies of copies, on the line and off it, after the handle is dropped. -/
example :
    let s := new.run [.signal, .copy 1, .never, .copy 3, .copy 2, .drop]
    (List.range s.signals.length).map s.fired = [true, true, true, false, false, true] := by
  decide

end StopLine

end ClaimGrid
