import ClaimGrid.Board.Moves
import ClaimGrid.Proofs.FirstMentions
import ClaimGrid.Proofs.Shard.Lookup

/-!
# Looking up the objects at a location

The objects at a location are looked up in one batch, which asks for the keys shard by shard, and
then gathered dot by dot. What comes out is what asking for the owner of one dot after the other
gives: free dots are passed over, and a handle that was found before is not listed again. Handles
are compared as such, so two objects that look alike are both listed.

## Main results

* `Board.firstMentions_eq`: the gathering keeps first mentions.
* `Board.objectsAt_eq`: the objects at a location are the owners of its dots, one by one.
* `Board.objectsAt_one_by_one`: the same, with what it says of order, repetitions and membership.
-/

namespace ClaimGrid.Board

variable {α : Type} [DecidableEq α] {b : Board α} {l : Location} {o : α}

/-- A handle is listed where it is found first. -/
theorem firstMentions_eq (os : List α) : firstMentions os = os.eraseDups := by
  induction os using List.reverseRecOn with
  | nil => rfl
  | append_singleton os o ih =>
    rw [firstMentions, List.foldl_append, List.foldl_cons, List.foldl_nil, ← firstMentions, ih]
    by_cases ho : o ∈ os
    · rw [eraseDups_concat_of_mem ho, if_pos (by simpa using ho)]
    · rw [eraseDups_concat_of_notMem ho, if_neg (by simpa using ho)]

omit [DecidableEq α] in
/-- The batch finds for a listed dot what a lookup of the dot alone finds. -/
theorem getElem?_getMany_keys {d : Dot} (hd : d ∈ l) :
    (b.occupancy.getMany l.keys)[d.key]? = b.owner? d := by
  rw [ShardMap.getElem?_getMany, if_pos (Location.mem_keys.2 hd), owner?]

theorem objectsAt_eq : b.objectsAt l = (l.dots.filterMap b.owner?).eraseDups := by
  have howners : (l.dots.filterMap fun d => (b.occupancy.getMany l.keys)[d.key]?) =
      l.dots.filterMap b.owner? :=
    List.filterMap_congr fun d hd => getElem?_getMany_keys hd
  rw [objectsAt, howners, firstMentions_eq]

/-- The objects found at a location are those that claim one of its dots. -/
theorem mem_objectsAt : o ∈ b.objectsAt l ↔ ∃ d ∈ l, b.owner? d = some o := by
  rw [objectsAt_eq, List.mem_eraseDups, List.mem_filterMap]
  rfl

/-- The objects found at a location are the owners of its dots, asked for one by one, each at its
first mention: they stand in the order of the dots, none is listed twice, and an object is listed
exactly if it claims a dot of the location. -/
theorem objectsAt_one_by_one (b : Board α) (l : Location) :
    b.objectsAt l = (l.dots.filterMap b.owner?).eraseDups ∧
    ((b.objectsAt l).Pairwise fun o p =>
      (l.dots.filterMap b.owner?).idxOf o < (l.dots.filterMap b.owner?).idxOf p) ∧
    (b.objectsAt l).Nodup ∧
    ∀ o, o ∈ b.objectsAt l ↔ ∃ d ∈ l, b.owner? d = some o := by
  have horder : (b.objectsAt l).Pairwise fun o p =>
      (l.dots.filterMap b.owner?).idxOf o < (l.dots.filterMap b.owner?).idxOf p := by
    rw [objectsAt_eq]
    exact pairwise_idxOf_eraseDups _
  refine ⟨objectsAt_eq, horder, horder.imp ?_, fun o => mem_objectsAt⟩
  rintro o _ hlt rfl
  exact Nat.lt_irrefl _ hlt

/-- Two objects that look alike, on dots of different shards, are both found, the owner of the first
dot first. -/
example :
    (((Board.make ⟨4, 4, by decide, by decide⟩ {}).toOption.map fun (b : Board (Nat × String)) =>
      let b := (b.create (0, "walker") ⟨[⟨0, 1⟩, ⟨3, 3⟩]⟩).2
      let b := (b.create (1, "walker") ⟨[⟨0, 0⟩]⟩).2
      b.objectsAt ⟨[⟨3, 3⟩, ⟨9, 9⟩, ⟨0, 0⟩, ⟨0, 1⟩, ⟨0, 0⟩]⟩)) =
        some [(0, "walker"), (1, "walker")] := rfl

end ClaimGrid.Board
