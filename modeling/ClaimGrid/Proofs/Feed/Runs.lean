import ClaimGrid.Proofs.Feed.Rests

/-!
# Runs of a hub

A run of a hub is told round by round: a call, the answer to it, and the rest that the dispatcher
and the relays come to afterwards, by whatever schedule, without the loss of an event. At every rest
the hub is where a feed stands after the same calls. Every list of calls has such a run, and should
there be a late start among them, any part of the queue may have been handed out at it.

## Main definitions

* `Round`: a call and the rest after it.
* `Hub.Runs`: one round after another.
* `Hub.rounds`: the run in which every rest is the one of the agenda.
* `Hub.Follows`: at every rest of a run, the hub is where a feed stands.

## Main results

* `Hub.runs_rounds`: every list of calls has a run.
* `Hub.Runs.follows`, `Hub.Runs.follows_of_inTime`: what every run comes to.
* `Hub.Rests.exists_follows`: a run that hands out a given part of the queue at a late start.
-/

namespace ClaimGrid

variable {ε : Type}

/-- A call with its answer, and the rest after it. -/
structure Round (ε : Type) where
  /-- The call. -/
  call : FeedCall ε
  /-- The hub at rest after it. -/
  rest : Hub ε

namespace Round

/-- The calls of some rounds, with their answers. -/
def log (t : List (Round ε)) : FeedLog ε := t.map call

/-- The calls of some rounds. -/
def requests (t : List (Round ε)) : List (FeedRequest ε) := t.map (·.call.request)

theorem log_append (t u : List (Round ε)) : log (t ++ u) = log t ++ log u := List.map_append

theorem requests_append (t u : List (Round ε)) : requests (t ++ u) = requests t ++ requests u :=
  List.map_append

end Round

namespace Hub

/-- One round after another: each call is made at rest, and what it sets off comes to rest, without
the loss of an event, before the next call. -/
inductive Runs : Hub ε → List (Round ε) → Prop
  | nil (h : Hub ε) : Runs h []
  | cons {h h' : Hub ε} {t : List (Round ε)} (r : FeedRequest ε)
      (hsettles : (h.call r).2.Settles h') (hrest : Runs h' t) :
      Runs h (⟨⟨r, (h.call r).1⟩, h'⟩ :: t)

/-- The hub after some rounds. -/
def last (h : Hub ε) (t : List (Round ε)) : Hub ε := (t.getLast?.map Round.rest).getD h

/-- The rounds of a list of calls, after each of which the agenda is followed. -/
def rounds (h : Hub ε) : List (FeedRequest ε) → List (Round ε)
  | [] => []
  | r :: rs =>
    ⟨⟨r, (h.callAndSettle r).1⟩, (h.callAndSettle r).2⟩ :: (h.callAndSettle r).2.rounds rs

variable {h h₀ : Hub ε} {f f₀ : Feed ε} {share : SubscriptionId → Nat} {t u : List (Round ε)}
  {c : FeedSettings}

theorem last_cons (h : Hub ε) (round : Round ε) (t : List (Round ε)) :
    h.last (round :: t) = round.rest.last t := by
  cases t with
  | nil => rfl
  | cons round' t =>
    rw [last, last, List.getLast?_cons_cons, List.getLast?_cons]
    rfl

theorem last_append (h : Hub ε) (t u : List (Round ε)) : h.last (t ++ u) = (h.last t).last u := by
  induction t generalizing h with
  | nil => rfl
  | cons round t ih => rw [List.cons_append, last_cons, last_cons, ih]

theorem runs_append_iff : h.Runs (t ++ u) ↔ h.Runs t ∧ (h.last t).Runs u := by
  induction t generalizing h with
  | nil => exact (and_iff_right (.nil h)).symm
  | cons round t ih =>
    rw [List.cons_append, last_cons]
    constructor
    · rintro (_ | ⟨r, hsettles, hrest⟩)
      exact ⟨.cons r hsettles (ih.1 hrest).1, (ih.1 hrest).2⟩
    · rintro ⟨_ | ⟨r, hsettles, hrest⟩, hmore⟩
      exact .cons r hsettles (ih.2 ⟨hrest, hmore⟩)

theorem requests_rounds (h : Hub ε) (rs : List (FeedRequest ε)) :
    Round.requests (h.rounds rs) = rs := by
  induction rs generalizing h with
  | nil => rfl
  | cons r rs ih => exact congrArg (r :: ·) (ih _)

/-- Every list of calls has a run. -/
theorem runs_rounds (h : Hub ε) (rs : List (FeedRequest ε)) : h.Runs (h.rounds rs) := by
  induction rs generalizing h with
  | nil => exact .nil h
  | cons r rs ih => exact .cons r (settles_settle _) (ih _)

/-! ### The feed that a run follows -/

/-- At every rest of a run, the hub is where the feed stands after the same calls, with the same
answers, where a late start shares the queue out. -/
def Follows (share : SubscriptionId → Nat) (h : Hub ε) (f : Feed ε) (t : List (Round ε)) : Prop :=
  ∀ p, p <+: t → Round.log p = f.logSharing share (Round.requests p) ∧
    Rests (h.last p) (f.runSharing share (Round.requests p))

theorem follows_nil (hr : Rests h f) : h.Follows share f [] := by
  intro p hp
  obtain rfl := List.prefix_nil.1 hp
  exact ⟨rfl, hr⟩

theorem follows_cons {round : Round ε} (hr : Rests h f)
    (hanswer : round.call.answer = (f.stepSharing share round.call.request).1)
    (hrest : round.rest.Follows share (f.stepSharing share round.call.request).2 t) :
    h.Follows share f (round :: t) := by
  intro p hp
  obtain rfl | ⟨q, rfl, hq⟩ := List.prefix_cons_iff.1 hp
  · exact ⟨rfl, hr⟩
  · obtain ⟨hlog, hlast⟩ := hrest q hq
    rw [last_cons]
    refine ⟨?_, hlast⟩
    change round.call :: Round.log q =
      ⟨round.call.request, (f.stepSharing share round.call.request).1⟩ :: _
    rw [hlog, ← hanswer]
    rfl

/-- After the start, shares do not matter. -/
theorem Follows.of_ne_created {share' : SubscriptionId → Nat} (hfollows : h.Follows share f t)
    (hstate : f.state ≠ .created) : h.Follows share' f t := by
  intro p hp
  obtain ⟨hlog, hlast⟩ := hfollows p hp
  obtain ⟨hrun₁, hlog₁⟩ := Feed.runSharing_of_ne_created hstate share (Round.requests p)
  obtain ⟨hrun₂, hlog₂⟩ := Feed.runSharing_of_ne_created hstate share' (Round.requests p)
  rw [hlog₁, ← hlog₂] at hlog
  rw [hrun₁, ← hrun₂] at hlast
  exact ⟨hlog, hlast⟩

/-- At every rest of every run in which no event is lost, the hub is where a feed stands. -/
theorem Runs.follows (hrun : h.Runs t) (hr : Rests h f) : ∃ share, h.Follows share f t := by
  induction hrun generalizing f with
  | nil h => exact ⟨fun _ => 0, follows_nil hr⟩
  | @cons h h' t r hsettles hrest ih =>
    obtain ⟨share, hanswer, hr'⟩ := hr.call r hsettles
    obtain ⟨share', hfollows⟩ := ih hr'
    by_cases hlate : f.StartsLate r
    · -- no later start is late, so the shares of this one may be taken for all of the run
      have hstate : (f.stepSharing share r).2.state ≠ .created := by
        obtain ⟨hcreated, signal, rfl, hfired⟩ := hlate
        rw [Feed.stepSharing_of_late hcreated hfired]
        nofun
      exact ⟨share, follows_cons hr hanswer (hfollows.of_ne_created hstate)⟩
    · have hstep : f.stepSharing share r = f.stepSharing share' r := by
        rw [Feed.stepSharing_of_not_late hlate, Feed.stepSharing_of_not_late hlate]
      rw [hstep] at hanswer hfollows
      exact ⟨share', follows_cons hr hanswer hfollows⟩

/-- For every list of calls and every number, there is a run in which that many events of the queue
are handed out at a late start. -/
theorem Rests.exists_follows (hr : Rests h f) (n : Nat) (rs : List (FeedRequest ε)) :
    ∃ t, h.Runs t ∧ Round.requests t = rs ∧ h.Follows (fun _ => n) f t := by
  induction rs generalizing h f with
  | nil => exact ⟨[], .nil h, rfl, follows_nil hr⟩
  | cons r rs ih =>
    obtain ⟨h', hsettles, hanswer, hr'⟩ := hr.exists_settles r n
    obtain ⟨t, hrun, hrequests, hfollows⟩ := ih hr'
    exact ⟨⟨⟨r, (h.call r).1⟩, h'⟩ :: t, .cons r hsettles hrun, congrArg (r :: ·) hrequests,
      follows_cons hr hanswer hfollows⟩

/-! ### From the beginning -/

theorem exists_feed_make (hmake : make c = .ok h₀) : ∃ f₀ : Feed ε, Feed.make c = .ok f₀ := by
  obtain ⟨hvalid, -⟩ := make_eq_ok hmake
  exact Feed.make_of_validate hvalid

/-- If the feed is not started late, every run comes to the same. -/
theorem Runs.follows_of_inTime (hhub : make c = .ok h₀) (hfeed : Feed.make c = .ok f₀)
    (hrun : h₀.Runs t) (hin : FeedRequest.InTime (Round.requests t)) :
    Round.log t = f₀.log (Round.requests t) ∧
      Rests (h₀.last t) (f₀.run (Round.requests t)) := by
  obtain ⟨share, hfollows⟩ := hrun.follows (rests_make hhub hfeed)
  obtain ⟨hlog, hlast⟩ := hfollows t (List.prefix_refl t)
  obtain ⟨hsame, hlogs⟩ := Feed.sharing_of_inTime hfeed hin share
  rw [hlogs] at hlog
  rw [hsame] at hlast
  exact ⟨hlog, hlast⟩

/-- The second part of such a run goes on where the first one has led. -/
theorem Runs.follows_append_of_inTime (hhub : make c = .ok h₀) (hfeed : Feed.make c = .ok f₀)
    (hrun : h₀.Runs (t ++ u)) (hin : FeedRequest.InTime (Round.requests (t ++ u))) :
    Round.log u = (f₀.run (Round.requests t)).log (Round.requests u) ∧
      Rests ((h₀.last t).last u) ((f₀.run (Round.requests t)).run (Round.requests u)) := by
  have hin' := hin
  rw [Round.requests_append] at hin'
  obtain ⟨hfirst, -⟩ := (runs_append_iff.1 hrun).1.follows_of_inTime hhub hfeed hin'.of_append
  obtain ⟨hboth, hlast⟩ := hrun.follows_of_inTime hhub hfeed hin
  rw [Round.log_append, Round.requests_append, Feed.log_append, hfirst] at hboth
  rw [last_append, Round.requests_append, Feed.run_append] at hlast
  exact ⟨List.append_cancel_left hboth, hlast⟩

/-- The last answer of such a run is the one that the feed gives. -/
theorem Runs.answer_of_inTime {round : Round ε} (hhub : make c = .ok h₀)
    (hfeed : Feed.make c = .ok f₀) (hrun : h₀.Runs (t ++ [round]))
    (hin : FeedRequest.InTime (Round.requests (t ++ [round]))) :
    ((f₀.run (Round.requests t)).step round.call.request).1 = round.call.answer := by
  obtain ⟨hlog, -⟩ := hrun.follows_append_of_inTime hhub hfeed hin
  have hcall : round.call = ⟨round.call.request,
      ((f₀.run (Round.requests t)).step round.call.request).1⟩ := (List.cons.inj hlog).1
  exact (congrArg FeedCall.answer hcall).symm

end Hub

end ClaimGrid
