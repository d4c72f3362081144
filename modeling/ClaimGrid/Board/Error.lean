import ClaimGrid.Grid.Area
import ClaimGrid.Shard.Map

/-!
# Errors of the board

The ways in which a request to the board, or the making of a board, can fail.

## Main definitions

* `BoardError`: the causes.
* `BoardError.message`, `BoardError.kind`, `BoardError.outline`: sentence, kind and shown form.
-/

namespace ClaimGrid

/-- Why a board refused a request. -/
inductive BoardError where
  /-- A grid value was refused. -/
  | grid (cause : GridError)
  /-- A location has no dots. -/
  | emptyLocation
  /-- A location leaves the area. -/
  | locationOutOfArea (area : Area)
  /-- A dot of a location is claimed. -/
  | locationOccupied
  /-- None of the asked dots could be held. -/
  | noDotsAvailable
  /-- The object is on the board already. -/
  | objectAlreadyRegistered
  /-- The object is not on the board. -/
  | objectNotRegistered
  /-- A search for free dots ended without a hit. -/
  | retriesExhausted (attempts : UInt32)
  /-- The map of claims could not be made. -/
  | storage (cause : ShardCountError)
  /-- A setting is out of range. -/
  | invalidSettings (reason : String)
  deriving DecidableEq

namespace BoardError

/-- The sentence for a cause. -/
def message : BoardError → String
  | grid cause => cause.message
  | emptyLocation => "location is empty"
  | locationOutOfArea area => "location does not fit area " ++ area.text
  | locationOccupied => "location is occupied"
  | noDotsAvailable => "no dots available for object"
  | objectAlreadyRegistered => "object already registered"
  | objectNotRegistered => "object not registered"
  | retriesExhausted attempts =>
      "no free location found after " ++ Decimal.numeral attempts.toNat ++ " attempts"
  | storage cause => cause.message
  | invalidSettings reason => "invalid configuration: " ++ reason

/-- The kind of a failure of the board. -/
def kind : BoardError → FaultKind
  | grid cause => cause.kind
  | emptyLocation | locationOutOfArea _ => .validation
  | locationOccupied | noDotsAvailable | objectAlreadyRegistered | objectNotRegistered => .conflict
  | retriesExhausted _ => .retriesExhausted
  | storage cause => cause.kind
  | invalidSettings _ => .configuration

/-- The cause as it is shown to a developer. -/
def outline : BoardError → Outline
  | grid cause => .tuple "Geometry" [cause.outline]
  | emptyLocation => .bare "EmptyLocation"
  | locationOutOfArea area => .record "LocationOutOfArea" [("area", area.outline)]
  | locationOccupied => .bare "LocationOccupied"
  | noDotsAvailable => .bare "NoDotsAvailable"
  | objectAlreadyRegistered => .bare "ObjectAlreadyRegistered"
  | objectNotRegistered => .bare "ObjectNotRegistered"
  | retriesExhausted attempts =>
      .record "RetriesExhausted" [("attempts", .number attempts.toNat)]
  | storage cause => .tuple "Storage" [cause.outline]
  | invalidSettings reason => .tuple "InvalidConfig" [.quoted reason]

end BoardError

end ClaimGrid
