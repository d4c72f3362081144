import ClaimGrid.Board.Request

/-!
# Calls to a board

Every call to a board, changes and lookups alike, as one value, so that the answers along a run can
be described.

## Main definitions

* `BoardCall`: a call with its arguments.
* `BoardReply`: what a call answers.
* `Board.call`: the answer to a call and the board after it.
* `Board.replies`: the answers to a list of calls.
-/

namespace ClaimGrid

/-- A call to a board. -/
inductive BoardCall (α : Type) where
  | request (r : BoardRequest α)
  | locationOccupied (l : Location)
  | dotOccupied (d : Dot)
  | objectAt (d : Dot)
  | objectsAt (l : Location)
  | objects
  | isRegistered (o : α)
  | objectCount
  | occupiedCount
  | occupiedDots
  | navigate (d : Dot) (direction : Direction) (distance : UInt8)
  | area
  | outline

/-- What a call to a board answers. -/
inductive BoardReply (α : Type) where
  | outcome (answer : Except BoardError Board.Answer)
  | flag (b : Bool)
  | object (found : Option α)
  | objects (found : List α)
  | count (n : Nat)
  | dots (ds : List Dot)
  | dot (outcome : Except BoardError Dot)
  | area (a : Area)
  | outline (shown : Outline)

namespace Board

variable {α : Type} [DecidableEq α]

/-- The answer to a call and the board after it. Lookups leave the board. -/
def call (b : Board α) : BoardCall α → BoardReply α × Board α
  | .request r => (.outcome (b.step r).1, (b.step r).2)
  | .locationOccupied l => (.flag (b.locationOccupied l), b)
  | .dotOccupied d => (.flag (b.dotOccupied d), b)
  | .objectAt d => (.object (b.owner? d), b)
  | .objectsAt l => (.objects (b.objectsAt l), b)
  | .objects => (.objects b.objects, b)
  | .isRegistered o => (.flag (b.isRegistered o), b)
  | .objectCount => (.count b.objectCount, b)
  | .occupiedCount => (.count b.occupiedCount, b)
  | .occupiedDots => (.dots b.occupiedDots, b)
  | .navigate d direction distance => (.dot (b.navigate d direction distance), b)
  | .area => (.area b.area, b)
  | .outline => (.outline b.outline, b)

/-- The answers to a list of calls. -/
def replies (b : Board α) : List (BoardCall α) → List (BoardReply α)
  | [] => []
  | c :: cs => (b.call c).1 :: replies (b.call c).2 cs

end Board

end ClaimGrid
