import ClaimGrid.Proofs.Json.Shapes

/-!
# What reading a text checks

Areas, masks and rectangles have constructors that refuse what breaks their rule. A text of an area
or of a mask is read through the constructor, so that nothing else is ever read. A text of a
rectangle is not: whatever bytes it lists become a rectangle, and only those texts are safe whose
bytes the constructor would have taken.

## Main definitions

* `Json.TextLists`: a text of a value that lists bytes under names.

## Main results

* `Mask.exists_make_eq_ok_iff`: the constructor of masks accepts exactly the rectangular patterns.
* `Json.ofText?_iff_make`: areas and masks are read as they are made, rectangles as they are listed.
-/

namespace ClaimGrid

/-- The text is that of a value which lists bytes under names. -/
def Json.TextLists (text : String) (names : List String) (bytes : List UInt8) : Prop :=
  ∃ j, Json.read? text = some j ∧ j.Lists names bytes

/-! ### What the constructors accept -/

theorem Area.exists_make_eq_ok_iff {width height : UInt8} :
    (∃ a, Area.make width height = .ok a) ↔ 0 < width.toNat ∧ 0 < height.toNat := by
  constructor
  · rintro ⟨a, ha⟩
    obtain ⟨rfl, rfl⟩ := Area.make_eq_ok_iff.1 ha
    exact ⟨a.width_pos, a.height_pos⟩
  · rintro ⟨hwidth, hheight⟩
    exact ⟨⟨width, height, hwidth, hheight⟩, Area.make_eq_ok_iff.2 ⟨rfl, rfl⟩⟩

/-- Rows form a mask when there are between 1 and 255 of them, equally long and between 1 and 255
cells each. -/
theorem Mask.exists_make_eq_ok_iff {rows : List (List UInt8)} :
    (∃ m, Mask.make rows = .ok m) ↔
      ∃ columns, Mask.Rectangular rows columns ∧ 0 < columns ∧ columns ≤ 255 ∧
        0 < rows.length ∧ rows.length ≤ 255 := by
  constructor
  · rintro ⟨m, hm⟩
    obtain rfl := Mask.make_eq_ok_iff.1 hm
    exact ⟨m.columns, m.rectangular, m.columns_pos, Nat.le_of_lt_succ m.columns_lt, m.rows_pos,
      Nat.le_of_lt_succ m.rows_lt⟩
  · rintro ⟨columns, hrect, hcolumns, hcolumns', hrows, hrows'⟩
    exact ⟨⟨rows, columns, hrect, hcolumns, hrows, Nat.lt_succ_of_le hcolumns',
      Nat.lt_succ_of_le hrows'⟩, Mask.make_eq_ok_iff.2 rfl⟩

/-! ### What is read -/

variable {text : String}

theorem Area.ofText?_eq_some_iff {a : Area} :
    Area.shape.ofText? text = some a ↔
      ∃ width height, Json.TextLists text ["width", "height"] [width, height] ∧
        Area.make width height = .ok a := by
  simp only [Json.Shape.ofText?, Option.bind_eq_some_iff, Area.shape, Area.ofJson?_eq_some_iff,
    Json.TextLists]
  constructor
  · rintro ⟨j, hread, width, height, hlists, hmake⟩
    exact ⟨width, height, ⟨j, hread, hlists⟩, hmake⟩
  · rintro ⟨width, height, ⟨j, hread, hlists⟩, hmake⟩
    exact ⟨j, hread, width, height, hlists, hmake⟩

theorem Mask.ofText?_eq_some_iff {m : Mask} :
    Mask.shape.ofText? text = some m ↔
      ∃ rows, Json.read? text = some (.ofRows rows) ∧ Mask.make rows = .ok m := by
  simp only [Json.Shape.ofText?, Option.bind_eq_some_iff, Mask.shape, Mask.ofJson?_eq_some_iff]
  constructor
  · rintro ⟨j, hread, rows, rfl, hmake⟩
    exact ⟨rows, hread, hmake⟩
  · rintro ⟨rows, hread, hmake⟩
    exact ⟨_, hread, rows, rfl, hmake⟩

theorem Rect.ofText?_eq_some_iff {r : Rect} :
    Rect.shape.ofText? text = some r ↔
      Json.TextLists text ["x", "y", "width", "height"] [r.x, r.y, r.width, r.height] := by
  rw [Json.Shape.ofText?, Option.bind_eq_some_iff]
  exact exists_congr fun j => and_congr_right fun _ => Rect.ofJson?_eq_some_iff

theorem Rect.make_eq_error_iff {r : Rect} :
    Rect.make r.x r.y r.width r.height = .error (.invalidRect r.x r.y r.width r.height) ↔
      ¬ r.IsValid := by
  rw [make]
  split
  · rename_i hvalid
    exact ⟨nofun, fun h => absurd hvalid h⟩
  · rename_i hvalid
    exact ⟨fun _ => hvalid, fun _ => rfl⟩

/-- An area is read exactly from the texts that list sides which its constructor accepts, and a mask
from those that hold rows which its constructor accepts: no value is read that breaks its rule. A
rectangle is read from every text that lists its corner and its sides. It keeps the rule of its
constructor where these are inside the coordinate range, and is one that the constructor refuses
where they are not. -/
theorem Json.ofText?_iff_make (text : String) :
    (∀ a, Area.shape.ofText? text = some a ↔
      ∃ width height, TextLists text ["width", "height"] [width, height] ∧
        0 < width.toNat ∧ 0 < height.toNat ∧ Area.make width height = .ok a) ∧
    (∀ m, Mask.shape.ofText? text = some m ↔
      ∃ rows columns, read? text = some (ofRows rows) ∧ Mask.Rectangular rows columns ∧
        0 < columns ∧ columns ≤ 255 ∧ 0 < rows.length ∧ rows.length ≤ 255 ∧
        Mask.make rows = .ok m) ∧
    (∀ r, Rect.shape.ofText? text = some r ∧ Rect.make r.x r.y r.width r.height = .ok r ↔
      TextLists text ["x", "y", "width", "height"] [r.x, r.y, r.width, r.height] ∧ r.IsValid) ∧
    (∀ r, Rect.shape.ofText? text = some r ∧
        Rect.make r.x r.y r.width r.height = .error (.invalidRect r.x r.y r.width r.height) ↔
      TextLists text ["x", "y", "width", "height"] [r.x, r.y, r.width, r.height] ∧
        ¬ r.IsValid) := by
  refine ⟨fun a => ?_, fun m => ?_, fun r => ?_, fun r => ?_⟩
  · rw [Area.ofText?_eq_some_iff]
    constructor
    · rintro ⟨width, height, hlists, hmake⟩
      obtain ⟨hwidth, hheight⟩ := Area.exists_make_eq_ok_iff.1 ⟨a, hmake⟩
      exact ⟨width, height, hlists, hwidth, hheight, hmake⟩
    · rintro ⟨width, height, hlists, -, -, hmake⟩
      exact ⟨width, height, hlists, hmake⟩
  · rw [Mask.ofText?_eq_some_iff]
    constructor
    · rintro ⟨rows, hread, hmake⟩
      obtain ⟨columns, hrect, hpos, hle, hrows, hrows'⟩ := Mask.exists_make_eq_ok_iff.1 ⟨m, hmake⟩
      exact ⟨rows, columns, hread, hrect, hpos, hle, hrows, hrows', hmake⟩
    · rintro ⟨rows, columns, hread, -, -, -, -, -, hmake⟩
      exact ⟨rows, hread, hmake⟩
  · rw [Rect.ofText?_eq_some_iff, Rect.make_eq_ok_iff, and_iff_left rfl]
  · rw [Rect.ofText?_eq_some_iff, Rect.make_eq_error_iff]

example : Area.shape.ofText? "[0, 5]" = none := by decide +kernel

/-- A rectangle that leaves the coordinate range is read, although the constructor refuses it. -/
theorem Rect.ofText?_outside :
    Rect.shape.ofText? "\x7b\"x\":250,\"y\":0,\"width\":10,\"height\":1\x7d" =
        some ⟨250, 0, 10, 1⟩ ∧
      Rect.make 250 0 10 1 = .error (.invalidRect 250 0 10 1) := by
  refine ⟨?_, rfl⟩
  decide +kernel

end ClaimGrid
