import ClaimGrid.Proofs.World.Outcome

/-!
# What settings are checked for

Settings are checked for one thing after the other: that both sides of the area are positive, and
then that each of five settings, of the board and of the feed, is at least one. The first check that
fails decides the error. Settings that pass make a world; others are refused with the error of the
check, before a board or a feed is made.

## Main definitions

* `SettingKey`: the settings, with their names and values.
* `WorldSettings.checks`: the checks in their order.
* `WorldSettings.firstFault`: what the first check that fails says.

## Main results

* `WorldSettings.validate_eq`: settings are refused for their first fault.
* `World.make_of_sound`, `World.make_of_fault`: so is a world.
* `Board.make_ne_storage`: the map of claims is made for every board.
-/

namespace ClaimGrid

/-! ### Settings by name -/

/-- The settings of a world. -/
inductive SettingKey where
  | width
  | height
  | shardCount
  | placementRetries
  | seed
  | ingressCapacity
  | relayCapacity
  | sendTimeout
  deriving DecidableEq

namespace SettingKey

/-- The name of a setting. -/
def name : SettingKey → String
  | width => "width"
  | height => "height"
  | shardCount => "shard_count"
  | placementRetries => "placement_retries"
  | seed => "seed"
  | ingressCapacity => "ingress_capacity"
  | relayCapacity => "relay_capacity"
  | sendTimeout => "send_timeout_ms"

/-- The value of a setting. -/
def value (c : WorldSettings) : SettingKey → Nat
  | width => c.width.toNat
  | height => c.height.toNat
  | shardCount => c.board.shardCount.toNat
  | placementRetries => c.board.placementRetries.toNat
  | seed => c.board.seed.toNat
  | ingressCapacity => c.feed.ingressCapacity.toNat
  | relayCapacity => c.feed.relayCapacity.toNat
  | sendTimeout => c.feed.sendTimeout.toNat

end SettingKey

/-! ### Checks in their order -/

/-- Something that settings are checked for. -/
structure SettingsCheck where
  /-- Whether the settings pass. -/
  passes : Bool
  /-- What is said if they do not. -/
  reason : String

namespace SettingsCheck

/-- What the first check that fails says. -/
def firstFault : List SettingsCheck → Option String
  | [] => none
  | check :: checks => if check.passes then firstFault checks else some check.reason

end SettingsCheck

namespace WorldSettings

variable (c : WorldSettings)

/-- Both sides of the area are positive. -/
def sidesCheck : SettingsCheck where
  passes := 0 < c.width.toNat ∧ 0 < c.height.toNat
  reason := (GridError.invalidArea c.width c.height).message

/-- A setting is at least one. -/
def atLeastOne (k : SettingKey) : SettingsCheck where
  passes := k.value c ≠ 0
  reason := "invalid configuration: " ++ (k.name ++ " must be at least 1")

/-- The checks of the settings, in their order. -/
def checks : List SettingsCheck :=
  c.sidesCheck :: [.shardCount, .placementRetries, .ingressCapacity, .relayCapacity,
    .sendTimeout].map c.atLeastOne

/-- What the first check that fails says. -/
def firstFault : Option String := SettingsCheck.firstFault c.checks

/-- Settings are refused for their first fault. -/
theorem validate_eq :
    c.validate =
      match c.firstFault with
      | none => .ok ()
      | some reason => .error (.invalid reason) := by
  have hword {n : UInt64} : n.toNat = 0 ↔ n = 0 :=
    show n.toNat = UInt64.toNat 0 ↔ n = 0 from UInt64.toNat_inj
  have hhalf {n : UInt32} : n.toNat = 0 ↔ n = 0 :=
    show n.toNat = UInt32.toNat 0 ↔ n = 0 from UInt32.toNat_inj
  simp only [firstFault, checks, List.map_cons, List.map_nil, SettingsCheck.firstFault, sidesCheck,
    atLeastOne, SettingKey.value, SettingKey.name, validate, area, Area.make,
    BoardSettings.validate, FeedSettings.validate, hword, hhalf, decide_eq_true_eq, ne_eq, ite_not]
  by_cases hsides : 0 < c.width.toNat ∧ 0 < c.height.toNat
  · rw [dif_pos hsides, if_pos hsides]
    split_ifs <;> rfl
  · rw [dif_neg hsides, if_neg hsides]
    rfl

end WorldSettings

/-! ### Making a world -/

variable {α : Type}

/-- The map of claims is made for every board whose settings pass the check. -/
theorem Board.make_ne_storage (area : Area) (settings : BoardSettings) (e : ShardCountError) :
    (Board.make area settings : Except BoardError (Board α)) ≠ .error (.storage e) := by
  intro herror
  cases hvalidate : settings.validate with
  | ok u =>
    obtain ⟨b, hb⟩ := Board.make_of_validate (α := α) area hvalidate
    rw [hb] at herror
    cases herror
  | error cause =>
    have hinvalid : ∃ reason, cause = .invalidSettings reason := by
      rw [BoardSettings.validate] at hvalidate
      split_ifs at hvalidate <;> exact ⟨_, (Except.error.inj hvalidate).symm⟩
    obtain ⟨reason, rfl⟩ := hinvalid
    rw [Board.make, hvalidate] at herror
    cases herror

/-- Settings without a fault make a world. -/
theorem World.make_of_sound {c : WorldSettings} (h : c.firstFault = none) :
    ∃ w : World α, World.make c = .ok w := by
  have hvalidate := c.validate_eq
  rw [h] at hvalidate
  exact World.make_of_validate hvalidate

/-- A world is refused for the first fault of its settings. -/
theorem World.make_of_fault {c : WorldSettings} {reason : String}
    (h : c.firstFault = some reason) :
    (World.make c : Except WorldError (World α)) = .error (.settings (.invalid reason)) := by
  have hvalidate := c.validate_eq
  rw [h] at hvalidate
  rw [World.make, hvalidate]

/-- Only the settings as such are refused, never the board or the feed. -/
theorem World.exists_reason_of_make {c : WorldSettings} {e : WorldError}
    (h : (World.make c : Except WorldError (World α)) = .error e) :
    ∃ reason, e = .settings (.invalid reason) := by
  cases hfault : c.firstFault with
  | none =>
    obtain ⟨w, hw⟩ := World.make_of_sound (α := α) hfault
    rw [hw] at h
    cases h
  | some reason => exact ⟨reason, Except.error.inj (h.symm.trans (World.make_of_fault hfault))⟩

end ClaimGrid
