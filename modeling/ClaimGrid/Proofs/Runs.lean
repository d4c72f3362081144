import Mathlib.Data.List.TakeWhile

/-!
# Runs of characters

Readers take a run of characters of one kind from the head of what is left to read: digits, blanks
or the characters of a name. When something was written as such a run in front of a character of
another kind, the reader finds exactly that run.

## Main definitions

* `EndsRun`: characters before which a run of one kind ends.

## Main results

* `EndsRun.takeWhile_append`, `EndsRun.dropWhile_append`: the run that a reader finds, and what
  follows it.
-/

namespace ClaimGrid

variable {p : Char → Bool} {run rest : List Char}

/-- A run of characters ends before these: the next one, if there is one, is of another kind. -/
def EndsRun (p : Char → Bool) (rest : List Char) : Prop := ∀ c ∈ rest.head?, p c = false

theorem endsRun_cons {c : Char} (h : p c = false) (rest : List Char) : EndsRun p (c :: rest) := by
  rintro d ⟨⟩
  exact h

theorem EndsRun.takeWhile_append (h : EndsRun p rest) (hrun : ∀ c ∈ run, p c = true) :
    (run ++ rest).takeWhile p = run := by
  rw [List.takeWhile_append_of_pos hrun]
  cases rest with
  | nil => exact List.append_nil run
  | cons c rest => rw [List.takeWhile_cons, h c rfl, if_neg Bool.false_ne_true, List.append_nil]

theorem EndsRun.dropWhile_append (h : EndsRun p rest) (hrun : ∀ c ∈ run, p c = true) :
    (run ++ rest).dropWhile p = rest := by
  rw [List.dropWhile_append_of_pos hrun]
  cases rest with
  | nil => rfl
  | cons c rest => rw [List.dropWhile_cons, h c rfl, if_neg Bool.false_ne_true]

/-- What starts with a run starts with no character of another kind. -/
theorem append_ne_cons (hne : run ≠ []) (hrun : ∀ c ∈ run, p c = true) {d : Char}
    (hd : p d = false) (ds : List Char) : run ++ rest ≠ d :: ds := by
  obtain ⟨c, cs, rfl⟩ := List.exists_cons_of_ne_nil hne
  intro heq
  obtain ⟨rfl, -⟩ := List.cons.inj heq
  rw [hrun c List.mem_cons_self] at hd
  cases hd

end ClaimGrid
