import ClaimGrid.Json.Record
import ClaimGrid.Settings.Basic

/-!
# Settings in JSON

Settings are records; they are read by `WorldSettings.ofDocument?` and its parts.

## Main definitions

* `BoardSettings.toJson`, `FeedSettings.toJson`, `WorldSettings.toJson`.
-/

namespace ClaimGrid

/-- Board settings as a record. -/
def BoardSettings.toJson (c : BoardSettings) : Json :=
  .record [("shard_count", .natural c.shardCount.toNat),
    ("placement_retries", .natural c.placementRetries.toNat), ("seed", .natural c.seed.toNat)]

/-- Feed settings as a record. -/
def FeedSettings.toJson (c : FeedSettings) : Json :=
  .record [("ingress_capacity", .natural c.ingressCapacity.toNat),
    ("relay_capacity", .natural c.relayCapacity.toNat),
    ("send_timeout_ms", .natural c.sendTimeout.toNat)]

/-- World settings as a record of records. -/
def WorldSettings.toJson (c : WorldSettings) : Json :=
  .record [("width", .natural c.width.toNat), ("height", .natural c.height.toNat),
    ("playground", c.board.toJson), ("broadcast", c.feed.toJson)]

end ClaimGrid
