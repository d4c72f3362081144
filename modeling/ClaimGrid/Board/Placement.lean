import ClaimGrid.Board.Basic
import ClaimGrid.Grid.Sampling

/-!
# Random placement

An object is placed on the first of a bounded number of random candidates that is free. Each
candidate moves the word stream on, whether it is taken or not.

## Main definitions

* `Candidate`: a place, and the rectangle that must be clear around it.
* `Candidate.randomDot`, `Candidate.randomRect`, `Candidate.randomRectMargin`,
  `Candidate.randomMask`: the samplers.
* `Board.seek`: a board with its word stream elsewhere.
* `Board.placeWithin`: the bounded search.
* `Board.createRandomDot`, `Board.createRandomRect`, `Board.createRandomRectMargin`,
  `Board.createRandomMask`: the requests.
-/

namespace ClaimGrid

/-- A place for an object. -/
structure Candidate where
  /-- The dots to claim. -/
  location : Location
  /-- A rectangle of which no dot may be claimed. -/
  clearance : Option Rect

/-- A sampler draws a candidate from a word stream, or refuses what it was asked for. Either way it
answers the stream after the words that it took. -/
abbrev Sampler := WordStream → Except BoardError Candidate × WordStream

namespace Candidate

/-- A single dot of the area. -/
def randomDot (area : Area) : Sampler := fun s =>
  let d := area.randomDot s
  (.ok ⟨.ofDot d.1, none⟩, d.2)

/-- A rectangle inside the area. -/
def randomRect (area : Area) (width height : UInt8) : Sampler := fun s =>
  let drawn := area.randomRect width height s
  match drawn.1 with
  | .error e => (.error (.grid e), drawn.2)
  | .ok r => (.ok ⟨r.location, none⟩, drawn.2)

/-- The inner part of a rectangle inside the area, its border of `margin` dots left free. -/
def randomRectMargin (area : Area) (width height margin outerWidth outerHeight : UInt8) :
    Sampler := fun s =>
  let drawn := area.randomRect outerWidth outerHeight s
  match drawn.1 with
  | .error e => (.error (.grid e), drawn.2)
  | .ok outer =>
    match Rect.make (outer.x + margin) (outer.y + margin) width height with
    | .error e => (.error (.grid e), drawn.2)
    | .ok inner => (.ok ⟨inner.location, some outer⟩, drawn.2)

/-- Whether a mask in its present rotation fits the area. -/
def fits (area : Area) (m : Mask) : Bool := m.width ≤ area.width && m.height ≤ area.height

/-- A mask in a random rotation, stamped inside the area. A rotation that does not fit is turned a
quarter further. -/
def randomMask (area : Area) (m : Mask) : Sampler := fun s =>
  let turned := m.randomTurn s
  let shape := if fits area turned.1 then turned.1 else turned.1.turnRight
  let drawn := area.randomRect shape.width shape.height turned.2
  match drawn.1 with
  | .error e => (.error (.grid e), drawn.2)
  | .ok r => (.ok ⟨shape.location r.origin, none⟩, drawn.2)

end Candidate

namespace Board

variable {α : Type} [DecidableEq α]

/-- Whether no dot of the rectangle around a candidate is claimed. -/
def isClear {α : Type} (b : Board α) (c : Candidate) : Bool :=
  match c.clearance with
  | none => true
  | some outer => !b.occupancy.hasAny outer.location.keys

/-- The board with its word stream at another position. -/
def seek {α : Type} (b : Board α) (s : WordStream) : Board α := { b with stream := s }

/-- Tries at most `n` candidates and places an object on the first that is clear and free. -/
def placeWithin (o : α) (sample : Sampler) : Nat → Board α → Except BoardError Location × Board α
  | 0, b => (.error (.retriesExhausted b.retries), b)
  | n + 1, b =>
    let drawn := sample b.stream
    let b := b.seek drawn.2
    match drawn.1 with
    | .error e => (.error e, b)
    | .ok c =>
      if b.isClear c then
        let r := b.claim o c.location
        if r.1 then
          let s := r.2.register o c.location
          (s.1.map fun _ => c.location, s.2)
        else placeWithin o sample n r.2
      else placeWithin o sample n b

/-- Places an object on a random candidate, trying as many as the budget allows. -/
def place (b : Board α) (o : α) (sample : Sampler) : Except BoardError Location × Board α :=
  if b.isRegistered o then (.error .objectAlreadyRegistered, b)
  else placeWithin o sample b.retries.toNat b

variable (b : Board α) (o : α)

/-- Places an object on a random free dot. -/
def createRandomDot : Except BoardError Location × Board α :=
  b.place o (Candidate.randomDot b.area)

/-- Places an object on a random free rectangle. -/
def createRandomRect (width height : UInt8) : Except BoardError Location × Board α :=
  b.place o (Candidate.randomRect b.area width height)

/-- A side with a margin at both ends, if it is still an 8-bit number. -/
def withMargin (side margin : UInt8) : Option UInt8 :=
  if side.toNat + 2 * margin.toNat < 256 then some (side + margin + margin) else none

/-- Places an object on a random rectangle around which a border of `margin` dots is free. -/
def createRandomRectMargin (width height margin : UInt8) :
    Except BoardError Location × Board α :=
  if width = 0 ∨ height = 0 then (.error (.grid (.invalidRect 0 0 width height)), b)
  else
    match withMargin width margin, withMargin height margin with
    | some outerWidth, some outerHeight =>
      b.place o (Candidate.randomRectMargin b.area width height margin outerWidth outerHeight)
    | _, _ => (.error (.grid (.invalidRect 0 0 width height)), b)

/-- Places an object on a random free stamp of a mask in one of its rotations. -/
def createRandomMask (m : Mask) : Except BoardError Location × Board α :=
  if m.count = 0 then (.error .emptyLocation, b)
  else if Candidate.fits b.area m || Candidate.fits b.area m.turnRight then
    b.place o (Candidate.randomMask b.area m)
  else
    (.error (.grid (.rectDoesNotFit m.width m.height b.area.width b.area.height)), b)

end Board

end ClaimGrid
