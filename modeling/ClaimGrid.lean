import ClaimGrid.Signal.Line
import ClaimGrid.Json.Grid
import ClaimGrid.Json.Settings
import ClaimGrid.World.Request
import ClaimGrid.Main
import ClaimGrid.Proofs.Shard.Plain
import ClaimGrid.Proofs.Board.Ledger
import ClaimGrid.Proofs.Board.Moves
import ClaimGrid.Proofs.Board.Refusal
import ClaimGrid.Proofs.Board.Bystanders
import ClaimGrid.Proofs.Board.Orphans
import ClaimGrid.Proofs.Board.Sharding
import ClaimGrid.Proofs.Feed.Log
import ClaimGrid.Proofs.Feed.Newest
import ClaimGrid.Proofs.Feed.Outputs
import ClaimGrid.Proofs.Feed.Phases
import ClaimGrid.Proofs.World.Calls
import ClaimGrid.Proofs.World.Reports
import ClaimGrid.Proofs.World.Store
import ClaimGrid.Proofs.World.Registry
import ClaimGrid.Proofs.Feed.Delivery
import ClaimGrid.Proofs.Board.Flaws
import ClaimGrid.Proofs.Feed.Lifecycle
import ClaimGrid.Proofs.Feed.Noninterference
import ClaimGrid.Proofs.Board.WellFormed
import ClaimGrid.Proofs.Board.Restated
import ClaimGrid.Proofs.Json.Acceptance
import ClaimGrid.Proofs.Board.FirstFit
import ClaimGrid.Proofs.Board.MoveEffects
import ClaimGrid.Proofs.Board.BestEffort
import ClaimGrid.Proofs.Board.Undo
import ClaimGrid.Proofs.Grid.Stamps
import ClaimGrid.Proofs.Board.Margins
import ClaimGrid.Proofs.Board.MaskPlacement
import ClaimGrid.Proofs.Shard.Reports
import ClaimGrid.Proofs.Grid.Walks
import ClaimGrid.Proofs.Grid.Rectangles
import ClaimGrid.Proofs.Board.Lookups
import ClaimGrid.Proofs.Grid.DotSets
import ClaimGrid.Proofs.Shard.Visits
import ClaimGrid.Proofs.Settings.Documents
import ClaimGrid.Proofs.Signal.Descent
