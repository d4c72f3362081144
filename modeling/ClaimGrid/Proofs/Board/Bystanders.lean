import ClaimGrid.Proofs.Board.Step

/-!
# What a request does not touch

A request works for the one object that it names, on dots that it names or is answered. Whatever
becomes of it, all other objects keep their dots and their place in the registry, and all other dots
keep their owners. This covers claims that ran into somebody's dots and were broken off, and
releases that name them.

## Main definitions

* `BoardRequest.locations`: the locations that a request passes.
* `BoardRequest.Mentions`: a dot is listed in one of them, or in the location answered.

## Main results

* `Board.step_spares_others`: objects, registry and dots that a request has nothing to do with.
-/

namespace ClaimGrid

namespace BoardRequest

variable {α : Type} {r : BoardRequest α} {d : Dot}

/-- The locations that a request passes. -/
def locations : BoardRequest α → List Location
  | create _ l | createAvailable _ l | delete _ l => [l]
  | update _ old new | updateAvailable _ old new => [old, new]
  | createRandomDot .. | createRandomRect .. | createRandomRectMargin .. | createRandomMask .. => []

/-- A dot is in a location that the request passes, or in the one that it is answered. -/
def Mentions (r : BoardRequest α) (answer : Except BoardError Board.Answer) (d : Dot) : Prop :=
  (∃ l ∈ r.locations, d ∈ l) ∨ ∃ l, answer = .ok (some l) ∧ d ∈ l

theorem mentions_of_mem_old (h : d ∈ r.old) (answer : Except BoardError Board.Answer) :
    r.Mentions answer d := by
  left
  cases r with
  | update o old new | updateAvailable o old new => exact ⟨old, List.mem_cons_self, h⟩
  | delete o l => exact ⟨l, List.mem_cons_self, h⟩
  | _ => exact absurd h List.not_mem_nil

theorem mentions_of_mem_held {answer : Board.Answer} (h : d ∈ r.held answer) :
    r.Mentions (.ok answer) d := by
  cases r with
  | create o l => exact .inl ⟨l, List.mem_cons_self, h⟩
  | update o old new => exact .inl ⟨new, List.mem_cons_of_mem _ List.mem_cons_self, h⟩
  | delete o l => exact absurd h List.not_mem_nil
  | _ =>
    -- the location held is the one answered
    cases answer with
    | none => exact absurd h List.not_mem_nil
    | some l => exact .inr ⟨l, rfl, h⟩

/-- Among the others, the registry stays in order. -/
theorem filter_registryAfter [DecidableEq α] (r : BoardRequest α) (os : List α) :
    (r.registryAfter os).filter (· ≠ r.object) = os.filter (· ≠ r.object) := by
  have hself : r.object ∉ os.filter (· ≠ r.object) := by simp
  rw [registryAfter]
  cases r.effect with
  | create => simp
  | update => rfl
  | delete => rw [← List.erase_filter, List.erase_of_not_mem hself]

end BoardRequest

namespace Board

variable {α : Type} [DecidableEq α]

/-- Whatever the answer, each object but the one named keeps exactly its dots and stays on the board
or off it, the others stay in order in the registry, and a dot that is in no location passed or
answered keeps its owner. -/
theorem step_spares_others (b : Board α) (r : BoardRequest α) :
    (∀ p ≠ r.object, (∀ d, (b.step r).2.owner? d = some p ↔ b.owner? d = some p) ∧
      (p ∈ (b.step r).2.objects ↔ p ∈ b.objects)) ∧
    (b.step r).2.objects.filter (· ≠ r.object) = b.objects.filter (· ≠ r.object) ∧
    ∀ d, ¬r.Mentions (b.step r).1 d → (b.step r).2.owner? d = b.owner? d := by
  rcases step_cases b r with ⟨e, s, hstep, -⟩ | ⟨answer, hanswer, hg⟩
  · rw [hstep]
    exact ⟨fun p _ => ⟨fun _ => Iff.rfl, Iff.rfl⟩, rfl, fun _ _ => rfl⟩
  · have horder : (b.step r).2.objects.filter (· ≠ r.object) =
        b.objects.filter (· ≠ r.object) := by
      rw [hg.objects_eq, r.filter_registryAfter]
    refine ⟨fun p hp => ⟨fun d => hg.exchange.owner?_eq_some_of_ne hp, ?_⟩, horder, ?_⟩
    · have hmem : p ∈ (b.step r).2.objects.filter (· ≠ r.object) ↔
          p ∈ b.objects.filter (· ≠ r.object) := by rw [horder]
      simpa [hp] using hmem
    · intro d hd
      have hold : d ∉ r.old := fun h => hd (BoardRequest.mentions_of_mem_old h _)
      have hheld : d ∉ r.held answer := fun h => hd (hanswer ▸ BoardRequest.mentions_of_mem_held h)
      rw [hg.exchange.owner?_eq]
      simp only [hold, hheld, false_and, if_false]

/-- Of two objects that look alike, the second is removed with a location that lists a dot of the
first. The handles tell them apart: the first keeps its dot. -/
theorem step_spares_lookalike :
    ∃ b : Board (Nat × String), Reachable ⟨4, 4, by decide, by decide⟩ {} b ∧
      (b.step (.delete (1, "walker") ⟨[⟨0, 0⟩, ⟨1, 1⟩]⟩)).1 = .ok none ∧
      (b.step (.delete (1, "walker") ⟨[⟨0, 0⟩, ⟨1, 1⟩]⟩)).2.owner? ⟨0, 0⟩ = some (0, "walker") ∧
      (0, "walker") ∈ (b.step (.delete (1, "walker") ⟨[⟨0, 0⟩, ⟨1, 1⟩]⟩)).2.objects := by
  have hstart : Board.make (α := Nat × String) ⟨4, 4, by decide, by decide⟩ {} = .ok _ := rfl
  have hfirst := (Reachable.start hstart).step (.create (0, "walker") (.ofDot ⟨0, 0⟩))
  have hsecond := hfirst.step (.create (1, "walker") (.ofDot ⟨1, 1⟩))
  refine ⟨_, hsecond, rfl, ?_⟩
  obtain ⟨hdots, hlisted⟩ := (step_spares_others _ (.delete (1, "walker") ⟨[⟨0, 0⟩, ⟨1, 1⟩]⟩)).1
    (0, "walker") (by decide)
  exact ⟨(hdots _).2 rfl, hlisted.2 List.mem_cons_self⟩

end Board

end ClaimGrid
