import ClaimGrid.Soak.Session
import ClaimGrid.Text.Numeral

/-!
# Reports of soak sessions

What a session writes: its plan before the first round, the counters after the last one, and a line
that says why it failed.

## Main definitions

* `SoakPlan.opening`: the text before the first round.
* `Soak.summary`: the counters after the last round.
* `Soak.countArgument`: a number of walkers or seconds as it is asked for.
* `Transcript`, `Soak.transcript`: everything that a session of a given number of rounds writes.
-/

namespace ClaimGrid

/-- What a finished command leaves behind. -/
structure Transcript where
  /-- Zero if the command succeeded. -/
  code : UInt32
  /-- What it wrote to the output. -/
  output : String
  /-- What it wrote about failures. -/
  failures : String

/-- A text of whole lines. -/
def Soak.linesText (ls : List String) : String := String.join (ls.map (· ++ "\n"))

/-- A line across the page. -/
def Soak.rule : String := String.join (List.replicate 67 "═")

/-- The text before the first round. -/
def SoakPlan.opening (p : SoakPlan) : String :=
  Soak.linesText [Soak.rule, "                        ARENA SOAK v0.1.0", Soak.rule,
    "  Area:     " ++ Decimal.numeral p.settings.width.toNat ++ "x" ++
      Decimal.numeral p.settings.height.toNat,
    "  Shards:   " ++ Decimal.numeral p.settings.board.shardCount.toNat,
    "  Movers:   " ++ Decimal.numeral p.movers,
    "  Duration: " ++ Decimal.numeral p.seconds ++ "s",
    ""]

namespace Soak

/-- The line that says why a session failed before it began. -/
def fatal (message : String) : String := linesText ["✗ FATAL: " ++ message]

/-- A quotient to the nearest whole number, a half to the even one. -/
def roundedQuotient (n d : Nat) : Nat :=
  let q := n / d
  let r := n % d
  if d < 2 * r ∨ d = 2 * r ∧ q % 2 = 1 then q + 1 else q

/-- The counters after the last round of a session that took some nanoseconds. -/
def summary (s : Soak) (nanoseconds : Nat) : String :=
  linesText (["  Moves:    " ++ Decimal.numeral s.moves ++ " (" ++
      Decimal.numeral (roundedQuotient (s.moves * 1000000000) nanoseconds) ++ "/s)",
    "  Blocked:  " ++ Decimal.numeral s.blocked,
    "  Objects:  " ++ Decimal.numeral s.world.stats.objects,
    "  Occupied: " ++ Decimal.numeral s.world.stats.occupiedDots] ++
    EventKind.all.map fun k => "  " ++ k.title ++ ": " ++ Decimal.numeral (s.seen.count k))

/-- What a session writes after its last round. -/
def closing (s : Soak) (nanoseconds : Nat) : Transcript :=
  if s.balanced then
    ⟨0, s.summary nanoseconds ++ linesText ["✓ soak finished"], ""⟩
  else
    ⟨1, s.summary nanoseconds, linesText ["✗ registry and occupancy disagree after shutdown"]⟩

/-- A number of walkers or seconds as it is asked for: decimal digits, perhaps after a plus, that
stand for a 64-bit number. Anything else asks for the default. -/
def countArgument (default : Nat) (argument : Option String) : Nat :=
  let digits : List Char := match argument.map String.toList with
    | some ('+' :: cs) => cs
    | some cs => cs
    | none => []
  if digits.isEmpty then default
  else ((Numeral.ofDigits? 10 digits).filter (· < UInt64.size)).getD default

/-- The plan for a session with given settings and the further arguments of the command. -/
def planOf (settings : WorldSettings) (arguments : List String) : SoakPlan :=
  ⟨settings, countArgument 8 arguments[0]?, countArgument 5 arguments[1]?⟩

/-- Everything that a session of some rounds writes. -/
def transcript (settings : Except SettingsError WorldSettings) (arguments : List String)
    (rounds nanoseconds : Nat) : Transcript :=
  match settings with
  | .error e => ⟨1, "", fatal e.message⟩
  | .ok c =>
    let plan := planOf c arguments
    match begin plan with
    | .error e => ⟨1, plan.opening, fatal e.message⟩
    | .ok s =>
      let t := (s.rounds rounds).finish.closing nanoseconds
      { t with output := plan.opening ++ t.output }

end Soak

end ClaimGrid
