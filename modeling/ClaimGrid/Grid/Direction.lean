import ClaimGrid.Grid.Error

/-!
# Directions

The four compass directions. North goes up the rows, that is to smaller `y`.

## Main definitions

* `Direction`: north, east, south or west.
* `Direction.parse`, `Direction.ofCode`: a direction from its name or number.
* `Direction.between`: the direction from one dot to another on the same line.

## Main results

* `Direction.reverse_reverse`: turning around twice changes nothing.
* `Direction.parse_name`, `Direction.ofCode_code`: names and numbers read back.
-/

namespace ClaimGrid

/-- A compass direction. -/
inductive Direction where
  | north
  | east
  | south
  | west
  deriving DecidableEq, Inhabited

namespace Direction

/-- All directions, clockwise from north. -/
def all : List Direction := [north, east, south, west]

/-- The opposite direction. -/
def reverse : Direction → Direction
  | north => south
  | east => west
  | south => north
  | west => east

/-- The lower-case name. -/
def name : Direction → String
  | north => "north"
  | east => "east"
  | south => "south"
  | west => "west"

/-- The number of a direction, clockwise from north. -/
def code : Direction → UInt8
  | north => 0
  | east => 1
  | south => 2
  | west => 3

/-- A direction as it is shown to a developer. -/
def outline : Direction → Outline
  | north => .bare "North"
  | east => .bare "East"
  | south => .bare "South"
  | west => .bare "West"

/-- The direction with a given name. -/
def ofName? (text : String) : Option Direction := all.find? fun d => d.name == text

/-- The direction whose name, or whose name's first letter, is the text with its ASCII letters
lowered. -/
def parse (text : String) : Except GridError Direction :=
  let lowered := text.toList.map Char.toLower
  match all.find? fun d => lowered == d.name.toList || lowered == d.name.toList.take 1 with
  | some d => .ok d
  | none => .error (.invalidDirection text)

/-- The direction with a given number. -/
def ofCode (n : UInt8) : Except GridError Direction :=
  match all.find? fun d => d.code == n with
  | some d => .ok d
  | none => .error (.invalidDirection ("code " ++ Decimal.numeral n.toNat))

/-- The direction that leads from `start` to `stop` when they differ in exactly one coordinate. -/
def between (start stop : Dot) : Except GridError Direction :=
  if start.x = stop.x then
    if stop.y < start.y then .ok north
    else if start.y < stop.y then .ok south
    else .error (.notInLine start stop)
  else if start.y = stop.y then
    if stop.x < start.x then .ok west else .ok east
  else .error (.notInLine start stop)

@[simp] theorem reverse_reverse (d : Direction) : d.reverse.reverse = d := by cases d <;> rfl

theorem parse_name (d : Direction) : parse d.name = .ok d := by
  cases d <;> rfl

theorem ofCode_code (d : Direction) : ofCode d.code = .ok d := by cases d <;> rfl

theorem ofName?_name (d : Direction) : ofName? d.name = some d := by
  cases d <;> decide

end Direction

end ClaimGrid
