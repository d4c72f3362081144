import ClaimGrid.Board.Settings
import ClaimGrid.Document.Fields
import ClaimGrid.Settings.Error

/-!
# Settings of a world

The sides of the area and the settings of the board and of the feed. Every setting may be left out.

## Main definitions

* `WorldSettings`: the settings, with their defaults.
* `WorldSettings.area`: the area with the given sides.
* `WorldSettings.validate`: the first setting that is out of range.
* `WorldSettings.ofDocument?`: the settings that a document lists.
-/

namespace ClaimGrid

/-- The sides of the area and the settings of the board and of the feed. -/
structure WorldSettings where
  /-- Number of columns. -/
  width : UInt8 := 100
  /-- Number of rows. -/
  height : UInt8 := 100
  /-- Settings of the board. -/
  board : BoardSettings := {}
  /-- Settings of the feed. -/
  feed : FeedSettings := {}
  deriving DecidableEq, Inhabited

namespace WorldSettings

/-- The area with the given sides. -/
def area (c : WorldSettings) : Except SettingsError Area :=
  (Area.make c.width c.height).mapError .ofGrid

/-- Refuses the first setting that is out of range: the area's, then the board's, then the
feed's. -/
def validate (c : WorldSettings) : Except SettingsError Unit :=
  match c.area with
  | .error e => .error e
  | .ok _ =>
    match c.board.validate with
    | .error e => .error (.ofBoard e)
    | .ok () =>
      match c.feed.validate with
      | .error e => .error (.ofFeed e)
      | .ok () => .ok ()

end WorldSettings

/-! ### Reading documents -/

section

open Document

variable {δ : Type} [Document δ]

/-- The board settings that a record lists. -/
def BoardSettings.ofDocument? (d : δ) : Option BoardSettings :=
  let base : BoardSettings := {}
  match fields? ["shard_count", "placement_retries", "seed"] d with
  | some [shardCount, placementRetries, seed] => do
    let shardCount ← boundedOr? UInt64.size base.shardCount.toNat shardCount
    let placementRetries ← boundedOr? UInt32.size base.placementRetries.toNat placementRetries
    let seed ← boundedOr? UInt64.size base.seed.toNat seed
    return ⟨UInt64.ofNat shardCount, UInt32.ofNat placementRetries, UInt64.ofNat seed⟩
  | _ => none

/-- The feed settings that a record lists. -/
def FeedSettings.ofDocument? (d : δ) : Option FeedSettings :=
  let base : FeedSettings := {}
  match fields? ["ingress_capacity", "relay_capacity", "send_timeout_ms"] d with
  | some [ingressCapacity, relayCapacity, sendTimeout] => do
    let ingressCapacity ← boundedOr? UInt64.size base.ingressCapacity.toNat ingressCapacity
    let relayCapacity ← boundedOr? UInt64.size base.relayCapacity.toNat relayCapacity
    let sendTimeout ← boundedOr? UInt64.size base.sendTimeout.toNat sendTimeout
    return ⟨UInt64.ofNat ingressCapacity, UInt64.ofNat relayCapacity, UInt64.ofNat sendTimeout⟩
  | _ => none

/-- The world settings that a record lists. -/
def WorldSettings.ofDocument? (d : δ) : Option WorldSettings :=
  let base : WorldSettings := {}
  match fields? ["width", "height", "playground", "broadcast"] d with
  | some [width, height, board, feed] => do
    let width ← boundedOr? UInt8.size base.width.toNat width
    let height ← boundedOr? UInt8.size base.height.toNat height
    let board ← recordOr? BoardSettings.ofDocument? base.board board
    let feed ← recordOr? FeedSettings.ofDocument? base.feed feed
    return ⟨UInt8.ofNat width, UInt8.ofNat height, board, feed⟩
  | _ => none

end

end ClaimGrid
