import ClaimGrid.Grid.Sampling
import ClaimGrid.World.Basic

/-!
# Walkers

A walker is an object of one dot that walks straight on, and takes a random direction whenever the
next dot is claimed by another object.

## Main definitions

* `Walker`: where a walker stands and where it is heading.
* `Walker.enter`, `Walker.step`, `Walker.leave`: its life in a world.
-/

namespace ClaimGrid

/-- An object of one dot that walks through a world. -/
structure Walker where
  /-- The handle of the object. -/
  id : Nat
  /-- The dot it claims. -/
  location : Location
  /-- Where it is heading. -/
  heading : Direction
  /-- Where it draws new headings from. -/
  stream : WordStream

/-- What a step of a walker came to. -/
inductive WalkOutcome where
  /-- The walker stands on the next dot. -/
  | moved
  /-- The next dot was refused, and the walker turned. -/
  | blocked
  /-- There is no next dot. -/
  | halted
  deriving DecidableEq

namespace Walker

/-- A walker enters a world on a random free dot, if one is found. Its headings are drawn from a
stream of its own, seeded with its number. -/
def enter (w : World Nat) (id : Nat) : Option Walker × World Nat :=
  let r := w.perform (.createRandomDot id)
  match r.1 with
  | .ok (some l) =>
    let heading := Direction.random (WordStream.ofSeed (UInt64.ofNat id))
    (some ⟨id, l, heading.1, heading.2⟩, r.2)
  | _ => (none, r.2)

/-- The dot in front of a walker. -/
def ahead? (w : World Nat) (k : Walker) : Option Dot :=
  k.location.dots.head?.bind fun d => (w.navigate d k.heading 1).toOption

/-- A walker takes the dot in front of it, or turns if that is refused. -/
def step (w : World Nat) (k : Walker) : WalkOutcome × Walker × World Nat :=
  match k.ahead? w with
  | none => (.halted, k, w)
  | some next =>
    let r := w.perform (.update k.id k.location (.ofDot next))
    match r.1 with
    | .ok _ => (.moved, { k with location := .ofDot next }, r.2)
    | .error _ =>
      let heading := Direction.random k.stream
      (.blocked, { k with heading := heading.1, stream := heading.2 }, r.2)

/-- A walker leaves the world. -/
def leave (w : World Nat) (k : Walker) : World Nat := (w.perform (.delete k.id k.location)).2

end Walker

end ClaimGrid
