import ClaimGrid.Board.Moves
import ClaimGrid.Board.Placement

/-!
# Requests to the board

Every call that may change a board, as one value, so that runs of a board can be described.

## Main definitions

* `BoardRequest`: a call with its arguments.
* `Board.step`: the answer to a request and the board after it.
* `Board.run`: the board after a list of requests.
* `Board.Reachable`: the boards that requests lead to from an empty board.
-/

namespace ClaimGrid

/-- A call that may change a board. -/
inductive BoardRequest (α : Type) where
  | create (o : α) (l : Location)
  | createAvailable (o : α) (l : Location)
  | createRandomDot (o : α)
  | createRandomRect (o : α) (width height : UInt8)
  | createRandomRectMargin (o : α) (width height margin : UInt8)
  | createRandomMask (o : α) (m : Mask)
  | update (o : α) (old new : Location)
  | updateAvailable (o : α) (old new : Location)
  | delete (o : α) (l : Location)

/-- What a request does to the object that it names. -/
inductive Effect where
  /-- The object enters the board. -/
  | create
  /-- The object moves. -/
  | update
  /-- The object leaves the board. -/
  | delete
  deriving DecidableEq

namespace BoardRequest

variable {α : Type}

/-- The object that a request names. -/
def object : BoardRequest α → α
  | create o _ | createAvailable o _ | createRandomDot o | createRandomRect o _ _
  | createRandomRectMargin o _ _ _ | createRandomMask o _ | update o _ _ | updateAvailable o _ _
  | delete o _ => o

/-- What a request does to the object that it names. -/
def effect : BoardRequest α → Effect
  | create .. | createAvailable .. | createRandomDot .. | createRandomRect ..
  | createRandomRectMargin .. | createRandomMask .. => .create
  | update .. | updateAvailable .. => .update
  | delete .. => .delete

end BoardRequest

namespace Board

variable {α : Type} [DecidableEq α]

/-- The answer of a request that succeeded: the location it answers, if it answers one. -/
abbrev Answer := Option Location

/-- A request that answers no location. -/
def withoutLocation (r : Except BoardError Unit × Board α) : Except BoardError Answer × Board α :=
  (r.1.map fun _ => none, r.2)

/-- A request that answers a location. -/
def withLocation (r : Except BoardError Location × Board α) :
    Except BoardError Answer × Board α :=
  (r.1.map some, r.2)

/-- The answer to a request and the board after it. -/
def step (b : Board α) : BoardRequest α → Except BoardError Answer × Board α
  | .create o l => withoutLocation (b.create o l)
  | .createAvailable o l => withLocation (b.createAvailable o l)
  | .createRandomDot o => withLocation (b.createRandomDot o)
  | .createRandomRect o width height => withLocation (b.createRandomRect o width height)
  | .createRandomRectMargin o width height margin =>
      withLocation (b.createRandomRectMargin o width height margin)
  | .createRandomMask o m => withLocation (b.createRandomMask o m)
  | .update o old new => withoutLocation (b.update o old new)
  | .updateAvailable o old new => withLocation (b.updateAvailable o old new)
  | .delete o l => withoutLocation (b.delete o l)

/-- The board after a list of requests. -/
def run (b : Board α) (rs : List (BoardRequest α)) : Board α :=
  rs.foldl (fun b r => (b.step r).2) b

/-- A board that requests lead to from an empty board on an area with given settings. -/
inductive Reachable (area : Area) (settings : BoardSettings) : Board α → Prop where
  | start {b : Board α} (h : Board.make area settings = .ok b) : Reachable area settings b
  | step {b : Board α} (h : Reachable area settings b) (r : BoardRequest α) :
      Reachable area settings (b.step r).2

end Board

end ClaimGrid
