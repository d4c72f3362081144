import ClaimGrid.Board.Basic

/-!
# Placing, moving and removing objects

The requests that name the dots themselves. Each comes in a strict form, which takes all dots or
none, and a best-effort form, which takes whatever is free and answers what it holds.

## Main definitions

* `Board.create`, `Board.createAvailable`: an object enters the board.
* `Board.update`, `Board.updateAvailable`: an object moves.
* `Board.delete`: an object leaves the board.
-/

namespace ClaimGrid.Board

variable {α : Type} [DecidableEq α] (b : Board α) (o : α)

/-- Places an object on every dot of a location. -/
def create (l : Location) : Except BoardError Unit × Board α :=
  match b.checkLocation l with
  | .error e => (.error e, b)
  | .ok () =>
    if b.isRegistered o then (.error .objectAlreadyRegistered, b)
    else
      let r := b.claim o l
      if r.1 then r.2.register o l else (.error .locationOccupied, r.2)

/-- Places an object on the free dots of a location, of which there may be none; answers them in
the order of the location. -/
def createAvailable (l : Location) : Except BoardError Location × Board α :=
  match b.checkLocation l with
  | .error e => (.error e, b)
  | .ok () =>
    if b.isRegistered o then (.error .objectAlreadyRegistered, b)
    else
      let r := b.claimFree o l
      let held : Location := ⟨l.dots.filter fun d => r.1.contains d.key⟩
      let s := r.2.register o held
      (s.1.map fun _ => held, s.2)

/-- Moves an object: takes the dots of `new` that are not in `old`, all or none, and then gives back
the dots of `old` that are not in `new`. -/
def update (old new : Location) : Except BoardError Unit × Board α :=
  match b.checkLocation new with
  | .error e => (.error e, b)
  | .ok () =>
    if b.isRegistered o then
      let r := b.claim o (new.difference old)
      if r.1 then (.ok (), r.2.release o (old.difference new)) else (.error .locationOccupied, r.2)
    else (.error .objectNotRegistered, b)

/-- Moves an object as far as possible: keeps the dots of `new` that are in `old`, takes those of
the others that are free, and answers both in the order of `new`. -/
def updateAvailable (old new : Location) : Except BoardError Location × Board α :=
  match b.checkLocation new with
  | .error e => (.error e, b)
  | .ok () =>
    if b.isRegistered o then
      let kept := old.keySet
      let r := b.claimFree o (new.difference old)
      let held := new.dots.filter fun d => kept.contains d.key || r.1.contains d.key
      if held.isEmpty then (.error .noDotsAvailable, r.2)
      else (.ok ⟨held⟩, r.2.release o (old.difference new))
    else (.error .objectNotRegistered, b)

/-- Removes an object and gives back the dots of a location that it claims. -/
def delete (l : Location) : Except BoardError Unit × Board α :=
  if b.isRegistered o then (b.release o l).unregister o
  else (.error .objectNotRegistered, b)

end ClaimGrid.Board
