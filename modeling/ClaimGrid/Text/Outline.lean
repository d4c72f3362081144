import ClaimGrid.Text.Decimal
import ClaimGrid.Text.Quoted

/-!
# Outlines

An outline is the shape in which a value is shown to a developer: named records and tuples, lists,
numbers, flags and quoted texts. It is written on one line.

## Main definitions

* `Outline`: the shape of a shown value.
* `Outline.render`: the line that shows it.
-/

namespace ClaimGrid

/-- The shape of a shown value. -/
inductive Outline where
  /-- A bare name, such as that of a constructor without fields. -/
  | bare (text : String)
  /-- A number. -/
  | number (n : Nat)
  /-- A truth value. -/
  | flag (b : Bool)
  /-- A text, shown in quotes. -/
  | quoted (text : String)
  /-- Values without labels under a name. -/
  | tuple (name : String) (items : List Outline)
  /-- Labelled values under a name. -/
  | record (name : String) (fields : List (String × Outline))
  /-- Labelled values under a name, of which some are left out. -/
  | partialRecord (name : String) (fields : List (String × Outline))
  /-- A sequence of values. -/
  | list (items : List Outline)

namespace Outline

mutual

/-- The line that shows an outline. -/
def render : Outline → String
  | bare text => text
  | number n => Decimal.numeral n
  | flag true => "true"
  | flag false => "false"
  | quoted text => Quoted.encode text
  | tuple name items => name ++ "(" ++ ", ".intercalate (renderItems items) ++ ")"
  | record name fields =>
      name ++ " \x7b " ++ ", ".intercalate (renderFields fields) ++ " \x7d"
  | partialRecord name fields =>
      name ++ " \x7b " ++ ", ".intercalate (renderFields fields ++ [".."]) ++ " \x7d"
  | list items => "[" ++ ", ".intercalate (renderItems items) ++ "]"

/-- The lines that show a sequence of outlines, one for each. -/
def renderItems : List Outline → List String
  | [] => []
  | item :: items => render item :: renderItems items

/-- The labelled lines that show the fields of a record. -/
def renderFields : List (String × Outline) → List String
  | [] => []
  | (label, value) :: fields => (label ++ ": " ++ render value) :: renderFields fields

end

end Outline

end ClaimGrid
