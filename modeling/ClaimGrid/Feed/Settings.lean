import ClaimGrid.Fault
import ClaimGrid.Text.Outline

/-!
# Settings and errors of the feed

## Main definitions

* `FeedError`: why an event was not accepted, or a feed not made.
* `FeedSettings`: queue sizes and the longest wait, with their defaults.
* `FeedSettings.validate`: the first setting that is out of range.
-/

namespace ClaimGrid

/-- Why a feed refused an event or could not be made. -/
inductive FeedError where
  /-- The feed is closed. -/
  | stopped
  /-- The ingress queue stayed full for the longest wait. -/
  | timeout (milliseconds : UInt64)
  /-- The ingress queue is full. -/
  | full
  /-- A setting is out of range. -/
  | invalidSettings (reason : String)
  deriving DecidableEq

namespace FeedError

/-- The sentence for a cause. -/
def message : FeedError → String
  | stopped => "broadcaster is stopped"
  | timeout milliseconds =>
      "ingress queue full for " ++ Decimal.numeral milliseconds.toNat ++ "ms"
  | full => "ingress queue full"
  | invalidSettings reason => "invalid configuration: " ++ reason

/-- The kind of a failure of the feed. -/
def kind : FeedError → FaultKind
  | stopped | timeout _ | full => .unavailable
  | invalidSettings _ => .configuration

/-- The cause as it is shown to a developer. -/
def outline : FeedError → Outline
  | stopped => .bare "Stopped"
  | timeout milliseconds => .record "Timeout" [("timeout_ms", .number milliseconds.toNat)]
  | full => .bare "Full"
  | invalidSettings reason => .tuple "InvalidConfig" [.quoted reason]

end FeedError

/-- Queue sizes of a feed and the longest wait of a publisher or a delivery. -/
structure FeedSettings where
  /-- Number of events that the ingress queue holds. -/
  ingressCapacity : UInt64 := 64
  /-- Number of events on their way to one subscriber. -/
  relayCapacity : UInt64 := 128
  /-- Longest wait in milliseconds. -/
  sendTimeout : UInt64 := 100
  deriving DecidableEq, Inhabited

namespace FeedSettings

/-- Settings for receivers that work in short ticks: longer queues, shorter waits. -/
def lowLatency : FeedSettings := ⟨256, 256, 15⟩

/-- Refuses queues without room and waits without duration. -/
def validate (c : FeedSettings) : Except FeedError Unit :=
  if c.ingressCapacity = 0 then .error (.invalidSettings "ingress_capacity must be at least 1")
  else if c.relayCapacity = 0 then .error (.invalidSettings "relay_capacity must be at least 1")
  else if c.sendTimeout = 0 then .error (.invalidSettings "send_timeout_ms must be at least 1")
  else .ok ()

/-- The settings as they are shown to a developer. -/
def outline (c : FeedSettings) : Outline :=
  .record "BroadcastConfig" [("ingress_capacity", .number c.ingressCapacity.toNat),
    ("relay_capacity", .number c.relayCapacity.toNat),
    ("send_timeout_ms", .number c.sendTimeout.toNat)]

end FeedSettings

end ClaimGrid
