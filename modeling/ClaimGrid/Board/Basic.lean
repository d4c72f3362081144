import ClaimGrid.Board.Settings
import ClaimGrid.Chance.WordStream
import ClaimGrid.Shard.Batch

/-!
# The board

A board keeps who claims which dot of an area. Objects are named by handles: two handles name the
same object exactly when they are equal, whatever the objects look like. Every dot is claimed by at
most one object, and the registry lists the objects on the board in the order of their creation.

## Main definitions

* `Board`: area, claims, registry, word stream and retry budget.
* `Board.make`: the empty board.
* `Board.owner?`, `Board.objectsAt`: who claims a dot, and who claims any dot of a location.
* `Board.claim`, `Board.release`: taking the dots of a location, and giving back one's own.
* `Board.register`, `Board.unregister`: entering the registry and leaving it.
-/

namespace ClaimGrid

/-- Who claims which dot of an area, for objects named by handles in `α`. -/
structure Board (α : Type) where
  /-- The playing field. -/
  area : Area
  /-- The claimed dots, by key, with the handles of their owners. -/
  occupancy : ShardMap α
  /-- The objects on the board, oldest first. -/
  objects : List α
  /-- Where random placements draw from. -/
  stream : WordStream
  /-- How many candidates a random placement tries. -/
  retries : UInt32

namespace Board

variable {α : Type}

/-- The board without objects, refused if a setting is out of range. -/
def make (area : Area) (settings : BoardSettings) : Except BoardError (Board α) :=
  match settings.validate with
  | .error e => .error e
  | .ok () =>
    match ShardMap.make settings.shardCount.toNat with
    | .error e => .error (.storage e)
    | .ok occupancy =>
      .ok { area := area, occupancy := occupancy, objects := [],
            stream := WordStream.ofSeed settings.seed, retries := settings.placementRetries }

variable (b : Board α)

/-! ### Lookups -/

/-- The object that claims a dot. -/
def owner? (d : Dot) : Option α := b.occupancy.get? d.key

/-- Whether a dot is claimed. -/
def dotOccupied (d : Dot) : Bool := b.occupancy.contains d.key

/-- Whether a location has dots and all of them are claimed. -/
def locationOccupied (l : Location) : Bool := !l.isEmpty && b.occupancy.hasAll l.keys

/-- The number of objects on the board. -/
def objectCount : Nat := b.objects.length

/-- The number of claimed dots. -/
def occupiedCount : Nat := b.occupancy.size

/-- The claimed dots in the order of their keys. -/
def occupiedDots : List Dot := b.occupancy.items.keys.map Dot.ofKey

/-- The claimed dots with their owners, in the order of the dots' keys. -/
def claims : List (Dot × α) := b.occupancy.items.toList.map fun (k, o) => (Dot.ofKey k, o)

/-- Steps across the area, wrapping at the edges. -/
def navigate (d : Dot) (direction : Direction) (distance : UInt8) : Except BoardError Dot :=
  (b.area.navigate d direction distance).mapError .grid

/-- A board as it is shown to a developer. -/
def outline : Outline :=
  .partialRecord "Playground" [("area", b.area.outline), ("objects", .number b.objectCount),
    ("occupied", .number b.occupiedCount)]

variable [DecidableEq α]

/-- Whether an object is on the board. -/
def isRegistered (o : α) : Bool := b.objects.contains o

/-- The handles of a list, each at its first mention only. -/
def firstMentions (os : List α) : List α :=
  os.foldl (fun seen o => if seen.contains o then seen else seen ++ [o]) []

/-- The objects that claim a dot of a location, in the order of the dots. -/
def objectsAt (l : Location) : List α :=
  let owners := b.occupancy.getMany l.keys
  firstMentions (l.dots.filterMap fun d => owners[d.key]?)

/-! ### Changes that requests are made of -/

/-- Refuses a location that is empty or leaves the area. -/
def checkLocation {α : Type} (b : Board α) (l : Location) : Except BoardError Unit :=
  if l.isEmpty then .error .emptyLocation
  else if b.area.containsLocation l then .ok ()
  else .error (.locationOutOfArea b.area)

/-- The claims that an object makes by taking a location. -/
def claimsOf {α : Type} (o : α) (l : Location) : List (Key × α) := l.dots.map fun d => (d.key, o)

/-- Takes every dot of a location for an object, or none; answers whether it did. -/
def claim {α : Type} (b : Board α) (o : α) (l : Location) : Bool × Board α :=
  let r := b.occupancy.claimAll (claimsOf o l)
  (r.1, { b with occupancy := r.2 })

/-- Takes the free dots of a location for an object; answers their keys. -/
def claimFree {α : Type} (b : Board α) (o : α) (l : Location) :
    Std.TreeSet Key × Board α :=
  let r := b.occupancy.claimFree (claimsOf o l)
  (Std.TreeSet.ofList r.1, { b with occupancy := r.2 })

/-- Gives back the dots of a location that the object claims. -/
def release (o : α) (l : Location) : Board α :=
  { b with occupancy := (b.occupancy.eraseAllIf l.keys fun owner => owner == o).2 }

/-- Lists an object last in the registry. If it is listed already, the dots of `l`, taken for it
just before, are given back. -/
def register (o : α) (l : Location) : Except BoardError Unit × Board α :=
  if b.isRegistered o then (.error .objectAlreadyRegistered, b.release o l)
  else (.ok (), { b with objects := b.objects ++ [o] })

/-- Strikes an object from the registry. -/
def unregister (o : α) : Except BoardError Unit × Board α :=
  if b.isRegistered o then (.ok (), { b with objects := b.objects.erase o })
  else (.error .objectNotRegistered, b)

end Board

end ClaimGrid
