import ClaimGrid.Board.Error

/-!
# Settings of the board

## Main definitions

* `BoardSettings`: number of shards, retry budget and seed, with their defaults.
* `BoardSettings.validate`: the first setting that is out of range.
-/

namespace ClaimGrid

/-- How a board stores claims and searches for free dots. -/
structure BoardSettings where
  /-- Number of shards of the map of claims. -/
  shardCount : UInt64 := 32
  /-- Number of candidates a random placement tries. -/
  placementRetries : UInt32 := 64
  /-- Seed of the random placements. -/
  seed : UInt64 := 10675360
  deriving DecidableEq, Inhabited

namespace BoardSettings

/-- Refuses a board without shards, or one that never tries a candidate. -/
def validate (c : BoardSettings) : Except BoardError Unit :=
  if c.shardCount = 0 then .error (.invalidSettings "shard_count must be at least 1")
  else if c.placementRetries = 0 then
    .error (.invalidSettings "placement_retries must be at least 1")
  else .ok ()

/-- The settings with another seed. -/
def withSeed (c : BoardSettings) (seed : UInt64) : BoardSettings := { c with seed := seed }

/-- The settings as they are shown to a developer. -/
def outline (c : BoardSettings) : Outline :=
  .record "PlaygroundConfig" [("shard_count", .number c.shardCount.toNat),
    ("placement_retries", .number c.placementRetries.toNat), ("seed", .number c.seed.toNat)]

end BoardSettings

end ClaimGrid
