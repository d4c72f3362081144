import ClaimGrid.Fault
import ClaimGrid.Grid.Dot
import ClaimGrid.Text.Outline

/-!
# Errors of the grid

The ways in which grid values can be refused. All of them are faults of the arguments alone.

## Main definitions

* `GridError`: the causes.
* `GridError.message`: the sentence for a cause.
* `GridError.outline`: the cause as it is shown to a developer.
-/

namespace ClaimGrid

/-- A dot as it is shown to a developer. -/
def Dot.outline (d : Dot) : Outline :=
  .record "Dot" [("x", .number d.x.toNat), ("y", .number d.y.toNat)]

/-- Why a grid value was refused. -/
inductive GridError where
  /-- An area has a side of length zero. -/
  | invalidArea (width height : UInt8)
  /-- A rectangle has a side of length zero or leaves the coordinate range. -/
  | invalidRect (x y width height : UInt8)
  /-- A rectangle is larger than the area it should lie in. -/
  | rectDoesNotFit (width height areaWidth areaHeight : UInt8)
  /-- A dot lies outside the area it should lie in. -/
  | dotOutOfArea (dot : Dot) (width height : UInt8)
  /-- A text or code names no direction. -/
  | invalidDirection (text : String)
  /-- Two dots are equal or share no coordinate. -/
  | notInLine (start stop : Dot)
  /-- Rows of cells form no mask. -/
  | invalidMask (reason : String)
  deriving DecidableEq

namespace GridError

/-- Two sides as they are written in messages. -/
def sides (width height : UInt8) : String :=
  Decimal.numeral width.toNat ++ "x" ++ Decimal.numeral height.toNat

/-- The sentence for a cause. -/
def message : GridError → String
  | invalidArea width height =>
      "invalid area " ++ sides width height ++ ": both sides must be positive"
  | invalidRect x y width height =>
      "invalid rect " ++ sides width height ++ " at " ++ Dot.text ⟨x, y⟩
  | rectDoesNotFit width height areaWidth areaHeight =>
      "rect " ++ sides width height ++ " does not fit area " ++ sides areaWidth areaHeight
  | dotOutOfArea dot width height =>
      "dot " ++ dot.text ++ " is outside area " ++ sides width height
  | invalidDirection text => "invalid direction: " ++ text
  | notInLine start stop =>
      "dots " ++ start.text ++ " and " ++ stop.text ++ " are not on one line"
  | invalidMask reason => "invalid dots mask: " ++ reason

/-- Every grid error is a fault of the arguments. -/
def kind (_ : GridError) : FaultKind := .validation

/-- The cause as it is shown to a developer. -/
def outline : GridError → Outline
  | invalidArea width height =>
      .record "InvalidArea" [("width", .number width.toNat), ("height", .number height.toNat)]
  | invalidRect x y width height =>
      .record "InvalidRect" [("x", .number x.toNat), ("y", .number y.toNat),
        ("width", .number width.toNat), ("height", .number height.toNat)]
  | rectDoesNotFit width height areaWidth areaHeight =>
      .record "RectDoesNotFit" [("width", .number width.toNat), ("height", .number height.toNat),
        ("area_width", .number areaWidth.toNat), ("area_height", .number areaHeight.toNat)]
  | dotOutOfArea dot width height =>
      .record "DotOutOfArea" [("dot", dot.outline), ("width", .number width.toNat),
        ("height", .number height.toNat)]
  | invalidDirection text => .tuple "InvalidDirection" [.quoted text]
  | notInLine start stop => .record "NotInLine" [("from", start.outline), ("to", stop.outline)]
  | invalidMask reason => .tuple "InvalidMask" [.quoted reason]

end GridError

end ClaimGrid
