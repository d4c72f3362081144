import Std.Data.TreeSet
import ClaimGrid.Grid.Dot
import ClaimGrid.Text.Outline
import ClaimGrid.Grid.Error

/-!
# Locations

A location is the list of dots that one object occupies, in the order in which they were given.
Order and repetitions are kept, but two locations name the same place when they hold the same dots.

## Main definitions

* `Location`: an ordered list of dots.
* `Location.SameDots`, `Location.sameDots`: equality of places, and its test.
* `Location.difference`, `Location.intersection`: the dots that another location lacks or shares.
* `Location.add`, `Location.delete`: edits that answer whether they changed anything.

## Main results

* `Location.contains_keySet`: the set of keys used for tests holds exactly the location's dots.
* `Location.mem_difference`, `Location.mem_intersection`: what the two selections hold.
* `Location.sameDots_iff`: the test decides equality of places.
-/

namespace ClaimGrid

/-- The dots one object occupies, in order. -/
structure Location where
  /-- The dots, with repetitions. -/
  dots : List Dot
  deriving DecidableEq, Inhabited

namespace Location

/-- The location of a single dot. -/
def ofDot (d : Dot) : Location := ⟨[d]⟩

/-- The location without dots. -/
def empty : Location := ⟨[]⟩

instance : Membership Dot Location := ⟨fun l d => d ∈ l.dots⟩

theorem mem_def {d : Dot} {l : Location} : d ∈ l ↔ d ∈ l.dots := Iff.rfl

instance (d : Dot) (l : Location) : Decidable (d ∈ l) := decidable_of_iff' _ mem_def

/-- The number of dots, repetitions counted. -/
def size (l : Location) : Nat := l.dots.length

/-- Whether a location has no dots. -/
def isEmpty (l : Location) : Bool := l.dots.isEmpty

/-- Whether a dot is listed. -/
def contains (l : Location) (d : Dot) : Bool := l.dots.contains d

/-- The keys of the dots, in order. -/
def keys (l : Location) : List UInt16 := l.dots.map Dot.key

/-- The set of the keys, for fast membership tests. -/
def keySet (l : Location) : Std.TreeSet UInt16 := Std.TreeSet.ofList l.keys

/-- The dots that `other` does not hold, in order. -/
def difference (l other : Location) : Location :=
  let taken := other.keySet
  ⟨l.dots.filter fun d => !taken.contains d.key⟩

/-- The dots that `other` holds too, in order. -/
def intersection (l other : Location) : Location :=
  let taken := other.keySet
  ⟨l.dots.filter fun d => taken.contains d.key⟩

/-- Two locations are the same place when they hold the same dots. -/
def SameDots (l other : Location) : Prop := ∀ d : Dot, d ∈ l ↔ d ∈ other

/-- Whether two locations hold the same dots, whatever their order and repetitions. -/
def sameDots (l other : Location) : Bool :=
  let left := l.keySet
  let right := other.keySet
  l.dots.all (fun d => right.contains d.key) && other.dots.all (fun d => left.contains d.key)

/-- Lists a dot last unless it is listed already; answers whether it was new. -/
def add (l : Location) (d : Dot) : Bool × Location :=
  if l.contains d then (false, l) else (true, ⟨l.dots ++ [d]⟩)

/-- Strikes every mention of a dot; answers whether there was one. -/
def delete (l : Location) (d : Dot) : Bool × Location :=
  (l.contains d, ⟨l.dots.filter (· ≠ d)⟩)

/-- The same dots in the same order, for a caller that edits them on its own. -/
def copy (l : Location) : Location := ⟨l.dots⟩

/-- The dots in opposite order. -/
def reverse (l : Location) : Location := ⟨l.dots.reverse⟩

/-- The first `n` dots. -/
def take (l : Location) (n : Nat) : Location := ⟨l.dots.take n⟩

/-- A location as it is shown to a developer. -/
def outline (l : Location) : Outline := .tuple "Location" [.list (l.dots.map Dot.outline)]

@[simp] theorem mem_keys {l : Location} {d : Dot} : d.key ∈ l.keys ↔ d ∈ l := by
  simp only [keys, List.mem_map, Dot.key_inj, exists_eq_right, mem_def]

@[simp] theorem contains_iff {l : Location} {d : Dot} : l.contains d = true ↔ d ∈ l := by
  simp [contains, mem_def]

@[simp] theorem contains_keySet {l : Location} {d : Dot} :
    l.keySet.contains d.key = true ↔ d ∈ l := by
  rw [keySet, Std.TreeSet.contains_ofList, List.contains_iff_mem, mem_keys]

theorem mem_difference {l other : Location} {d : Dot} :
    d ∈ l.difference other ↔ d ∈ l ∧ d ∉ other := by
  rw [mem_def, difference, List.mem_filter, Bool.not_eq_true', ← Bool.not_eq_true,
    contains_keySet, mem_def, mem_def]

theorem mem_intersection {l other : Location} {d : Dot} :
    d ∈ l.intersection other ↔ d ∈ l ∧ d ∈ other := by
  rw [mem_def, intersection, List.mem_filter, contains_keySet, mem_def, mem_def]

theorem sameDots_iff {l other : Location} : l.sameDots other = true ↔ l.SameDots other := by
  simp only [sameDots, Bool.and_eq_true, List.all_eq_true, contains_keySet, SameDots, mem_def]
  exact ⟨fun h d => ⟨h.1 d, h.2 d⟩, fun h => ⟨fun d => (h d).1, fun d => (h d).2⟩⟩

instance (l other : Location) : Decidable (l.SameDots other) :=
  decidable_of_iff _ sameDots_iff

end Location

end ClaimGrid
