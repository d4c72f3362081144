import ClaimGrid.Grid.Area
import ClaimGrid.Grid.Mask
import ClaimGrid.Json.Record

/-!
# Grid values in JSON

A dot, an area and a rectangle are records of bytes, a direction is its name, a location is the
array of its dots and a mask the array of its rows. Areas and masks are checked when they are read;
a rectangle is taken as it is.

## Main definitions

* `Dot.toJson`, `Area.toJson`, `Rect.toJson`, `Direction.toJson`, `Location.toJson`, `Mask.toJson`.
* `Dot.ofJson?`, `Area.ofJson?`, `Rect.ofJson?`, `Direction.ofJson?`, `Location.ofJson?`,
  `Mask.ofJson?`.
-/

namespace ClaimGrid

/-- A byte as a JSON number. -/
def Json.ofByte (b : UInt8) : Json := .natural b.toNat

/-- The bytes of a record that leaves no field out. -/
def Json.bytes? (names : List String) (j : Json) : Option (List UInt8) :=
  (j.fields? names).bind (·.mapM fun field => field.bind Json.byte?)

/-- A dot as a record. -/
def Dot.toJson (d : Dot) : Json := .record [("x", .ofByte d.x), ("y", .ofByte d.y)]

/-- The dot that a record is. -/
def Dot.ofJson? (j : Json) : Option Dot :=
  match j.bytes? ["x", "y"] with
  | some [x, y] => some ⟨x, y⟩
  | _ => none

/-- An area as a record. -/
def Area.toJson (a : Area) : Json :=
  .record [("width", .ofByte a.width), ("height", .ofByte a.height)]

/-- The area that a record is, if its sides are positive. -/
def Area.ofJson? (j : Json) : Option Area :=
  match j.bytes? ["width", "height"] with
  | some [width, height] => (Area.make width height).toOption
  | _ => none

/-- A rectangle as a record. -/
def Rect.toJson (r : Rect) : Json :=
  .record [("x", .ofByte r.x), ("y", .ofByte r.y), ("width", .ofByte r.width),
    ("height", .ofByte r.height)]

/-- The rectangle that a record is, unchecked. -/
def Rect.ofJson? (j : Json) : Option Rect :=
  match j.bytes? ["x", "y", "width", "height"] with
  | some [x, y, width, height] => some ⟨x, y, width, height⟩
  | _ => none

/-- A direction as its name. -/
def Direction.toJson (d : Direction) : Json := .text (some d.name)

/-- The direction that a word names. -/
def Direction.ofJson? (j : Json) : Option Direction :=
  j.ofChoices? (Direction.all.map fun d => (d.name, d))

/-- A location as the array of its dots. -/
def Location.toJson (l : Location) : Json := .array (l.dots.map Dot.toJson)

/-- The location whose dots an array holds. -/
def Location.ofJson? (j : Json) : Option Location :=
  (j.items?.bind (·.mapM Dot.ofJson?)).map Location.mk

/-- A mask as the array of its rows. -/
def Mask.toJson (m : Mask) : Json := .array (m.rows.map fun row => .array (row.map Json.ofByte))

/-- The mask whose rows an array holds, if they form one. -/
def Mask.ofJson? (j : Json) : Option Mask :=
  (j.items?.bind (·.mapM fun row => row.items?.bind (·.mapM Json.byte?))).bind fun rows =>
    (Mask.make rows).toOption

end ClaimGrid
